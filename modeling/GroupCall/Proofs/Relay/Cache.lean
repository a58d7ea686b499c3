/-
# The cache of addresses, up to their order

What is given for a host is stored unless the host is known with the same addresses already, in
any order and any number.  So a cache holds for each host what was given last among what it has
stored, and not what was given last of all.  Taken as sets the two are the same: the cache is a
map that is overwritten each time, as long as nobody looks at the order of the addresses.
-/
import GroupCall.Proofs.Addresses
import GroupCall.Proofs.Histories
import GroupCall.Relay.DnsCache
import Mathlib.Data.Option.Basic
import Mathlib.Logic.Function.Basic

namespace GroupCall

/-! ## Single operations -/

namespace DnsCache

variable {cache : DnsCache} {host : String} {addresses : Addresses}

theorem get?_remove (cache : DnsCache) (host other : String) :
    (cache.remove host).get? other = if other = host then none else cache.get? other :=
  Table.get?_erase cache.hosts host other

/-- What is stored is found, unless it was known already; other hosts are as before. -/
theorem get?_set (cache : DnsCache) (host other : String) (addresses : Addresses) :
    (cache.set host addresses).1.get? other =
      if other = host ∧ cache.agrees host addresses = false then some addresses
      else cache.get? other := by
  rw [set]
  cases h : cache.agrees host addresses with
  | true => simp
  | false => simp [get?]

theorem agrees_iff :
    cache.agrees host addresses = true ↔
      ∃ known, cache.get? host = some known ∧ known.Same addresses := by
  rw [agrees]
  cases cache.get? host <;> simp [Addresses.sameSet_iff]

theorem stored_set (cache : DnsCache) (host : String) (addresses : Addresses) :
    (cache.set host addresses).2 = !cache.agrees host addresses := by
  rw [set]
  cases cache.agrees host addresses <;> rfl

/-- Addresses are stored if the host is not known, or known with other ones. -/
theorem stored_set_iff :
    (cache.set host addresses).2 = true ↔
      cache.get? host = none ∨ ∃ known, cache.get? host = some known ∧ ¬ known.Same addresses := by
  rw [stored_set, Bool.not_eq_true', ← Bool.not_eq_true, agrees_iff]
  cases cache.get? host <;> simp

/-- Other addresses than the known ones are stored. -/
theorem get?_set_other {known fresh : Addresses} (hknown : cache.get? host = some known)
    (hother : ¬ known.Same fresh) : (cache.set host fresh).1.get? host = some fresh := by
  have hagrees : cache.agrees host fresh = false := by
    rw [agrees, hknown]
    simpa using mt Addresses.sameSet_iff.1 hother
  rw [get?_set, if_pos ⟨rfl, hagrees⟩]

end DnsCache

/-! ## What was done to a cache -/

/-- Something that is done to a cache. -/
inductive CacheStep where
  /-- Addresses are given for a host. -/
  | set (host : String) (addresses : Addresses)
  /-- A host is forgotten. -/
  | remove (host : String)
  /-- All hosts are forgotten. -/
  | clear
deriving DecidableEq, Repr

namespace CacheStep

/-- What a step makes of a cache, and whether it stores addresses. -/
def apply (cache : DnsCache) : CacheStep → DnsCache × Bool
  | .set host addresses => cache.set host addresses
  | .remove host => (cache.remove host, false)
  | .clear => (cache.clear, false)

/-- What a step makes of a map in which the addresses of a host are overwritten each time. -/
def overwrite (map : String → Option Addresses) : CacheStep → String → Option Addresses
  | .set host addresses => Function.update map host (some addresses)
  | .remove host => Function.update map host none
  | .clear => fun _ => none

/-- A step, of which it is known whether it stored addresses, leaves a host alone: it stores
nothing for it and does not forget it. -/
def Spares (host : String) : CacheStep × Bool → Prop
  | (.set other _, stored) => other = host → stored = false
  | (.remove other, _) => other ≠ host
  | (.clear, _) => False

/-- A step is about other hosts only. -/
def Avoids (host : String) : CacheStep → Prop
  | .set other _ => other ≠ host
  | .remove other => other ≠ host
  | .clear => False

variable {cache : DnsCache} {map : String → Option Addresses} {step : CacheStep} {host : String}
  {known : Addresses}

/-- What is known of a host after a step was stored in it, or was known before and left alone. -/
theorem get?_apply_eq_some_iff :
    (step.apply cache).1.get? host = some known ↔
      (step, (step.apply cache).2) = (.set host known, true) ∨
        Spares host (step, (step.apply cache).2) ∧ cache.get? host = some known := by
  cases step with
  | set other addresses =>
    rw [apply, DnsCache.get?_set, DnsCache.stored_set]
    by_cases hhost : host = other
    · subst hhost
      cases hagrees : cache.agrees host addresses <;> simp [Spares]
    · simp [Spares, hhost, Ne.symm hhost]
  | remove other =>
    rw [apply, DnsCache.get?_remove]
    by_cases hhost : host = other <;> simp [Spares, hhost, eq_comm]
  | clear => simp [apply, Spares, DnsCache.clear, DnsCache.empty, DnsCache.get?]

/-- What is known of a host is not touched by a step about others. -/
theorem get?_apply_of_avoids (h : step.Avoids host) :
    (step.apply cache).1.get? host = cache.get? host := by
  cases step with
  | set other addresses => rw [apply, DnsCache.get?_set, if_neg fun hset => h hset.1.symm]
  | remove other => rw [apply, DnsCache.get?_remove, if_neg (Ne.symm h)]
  | clear => exact h.elim

/-- A cache holds for each host the addresses of a map, in some order. -/
def Refines (cache : DnsCache) (map : String → Option Addresses) : Prop :=
  ∀ host, Option.Rel Addresses.Same (cache.get? host) (map host)

/-- It makes no difference that the same addresses are not stored again. -/
theorem Refines.apply (h : Refines cache map) (step : CacheStep) :
    Refines (step.apply cache).1 (step.overwrite map) := by
  intro host
  cases step with
  | set other addresses =>
    rw [CacheStep.apply, DnsCache.get?_set, overwrite]
    by_cases hhost : host = other
    · subst hhost
      rw [Function.update_self]
      cases hagrees : cache.agrees host addresses with
      | false =>
        rw [if_pos ⟨rfl, rfl⟩]
        exact .some (.refl addresses)
      | true =>
        obtain ⟨known, hknown, hsame⟩ := DnsCache.agrees_iff.1 hagrees
        rw [if_neg (by simp), hknown]
        exact .some hsame
    · rw [if_neg fun hset => hhost hset.1, Function.update_of_ne hhost]
      exact h host
  | remove other =>
    rw [CacheStep.apply, DnsCache.get?_remove, overwrite]
    by_cases hhost : host = other
    · rw [if_pos hhost, hhost, Function.update_self]
      exact .none
    · rw [if_neg hhost, Function.update_of_ne hhost]
      exact h host
  | clear => exact .none

end CacheStep

/-- A cache, and what was done to it since it was empty: each step, with whether it stored
addresses. -/
structure CacheLog where
  /-- The cache. -/
  cache : DnsCache
  /-- The steps, oldest first. -/
  history : List (CacheStep × Bool)

namespace CacheLog

open CacheStep

/-- An empty cache, to which nothing was done. -/
def new : CacheLog := ⟨.empty, []⟩

/-- The log after a step. -/
def take (t : CacheLog) (step : CacheStep) : CacheLog :=
  ⟨(step.apply t.cache).1, t.history ++ [(step, (step.apply t.cache).2)]⟩

/-- The log after a run. -/
def run (t : CacheLog) (steps : List CacheStep) : CacheLog := steps.foldl take t

theorem run_concat (t : CacheLog) (steps : List CacheStep) (step : CacheStep) :
    t.run (steps ++ [step]) = (t.run steps).take step := by
  simp [run]

variable {steps : List CacheStep} {host : String} {known : Addresses}

theorem history_run (steps : List CacheStep) : (new.run steps).history.map Prod.fst = steps := by
  induction steps using List.reverseRecOn with
  | nil => rfl
  | append_singleton steps step ih => rw [run_concat, take, List.map_append, ih, List.map_singleton]

/-- What is known of a host was stored for it, and every step since left it alone. -/
theorem get?_run_eq_some_iff :
    (new.run steps).cache.get? host = some known ↔
      Since (· = (.set host known, true)) (Spares host) (new.run steps).history := by
  induction steps using List.reverseRecOn with
  | nil =>
    refine iff_of_false (fun h => ?_) not_since_nil
    cases h
  | append_singleton steps step ih =>
    rw [run_concat, take, get?_apply_eq_some_iff, since_concat, ih]

theorem refines_run (steps : List CacheStep) :
    Refines (new.run steps).cache (steps.foldl overwrite fun _ => none) := by
  induction steps using List.reverseRecOn with
  | nil => exact fun _ => .none
  | append_singleton steps step ih =>
    rw [run_concat, List.foldl_concat]
    exact ih.apply step

/-- **The cache of addresses, up to their order.**  Addresses count as the same if both lists have
the same members of either version, in any order and any number.  Whatever was done to a cache
that was empty, a host is known with the addresses that were last stored for it, if it was not
forgotten since; they are stored if the host is not known, or known with other ones; the cache
agrees with the addresses of a host that is known with the same ones; and what is done for other
hosts makes no difference.  So the cache is a map that is overwritten each time, up to the order of
the addresses. -/
theorem cache_along_runs (steps : List CacheStep) :
    (∀ a b : Addresses, a.sameSet b = true ↔
      (∀ address, address ∈ a.ipv4 ↔ address ∈ b.ipv4) ∧
      ∀ address, address ∈ a.ipv6 ↔ address ∈ b.ipv6) ∧
    (∀ a b : List IpAddress, (Addresses.ofList a).sameSet (Addresses.ofList b) = true ↔
      ∀ ip, ip ∈ a ↔ ip ∈ b) ∧
    let t := new.run steps
    t.history.map Prod.fst = steps ∧
    ∀ host,
      (∀ known, t.cache.get? host = some known ↔
        Since (· = (.set host known, true)) (Spares host) t.history) ∧
      (∀ addresses, (t.cache.set host addresses).2 = true ↔
        t.cache.get? host = none ∨
          ∃ known, t.cache.get? host = some known ∧ ¬ known.Same addresses) ∧
      (∀ addresses, t.cache.agrees host addresses = true ↔
        ∃ known, t.cache.get? host = some known ∧ known.Same addresses) ∧
      (∀ step, step.Avoids host → (t.take step).cache.get? host = t.cache.get? host) ∧
      Option.Rel Addresses.Same (t.cache.get? host) (steps.foldl overwrite (fun _ => none) host) := by
  refine ⟨fun a b => ?_, fun a b => ?_, history_run steps, fun host => ?_⟩
  · rw [Addresses.sameSet_iff]
    exact ⟨fun h => ⟨h.ipv4, h.ipv6⟩, fun h => ⟨h.1, h.2⟩⟩
  · rw [Addresses.sameSet_iff, Addresses.same_ofList_iff]
  · exact ⟨fun known => get?_run_eq_some_iff, fun addresses => DnsCache.stored_set_iff,
      fun addresses => DnsCache.agrees_iff, fun step h => get?_apply_of_avoids h,
      refines_run steps host⟩

/-- The same addresses in another order are not stored. -/
example :
    (new.run [.set "a" ⟨[⟨1⟩, ⟨2⟩], []⟩, .set "a" ⟨[⟨2⟩, ⟨1⟩, ⟨2⟩], []⟩]).history.map Prod.snd =
      [true, false] := by
  decide

end CacheLog
end GroupCall

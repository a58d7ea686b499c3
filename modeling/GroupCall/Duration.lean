/-
# Lengths of time

A length of time counts nanoseconds and has an upper bound, so a product may not exist.
-/

namespace GroupCall

/-- A length of time. -/
structure Duration where
  /-- The nanoseconds. -/
  nanos : Nat
  /-- There are fewer than `2 ^ 64` whole seconds. -/
  bounded : nanos < 0x10000000000000000 * 1000000000
deriving DecidableEq, Repr

namespace Duration

/-- A number of milliseconds. -/
def ofMillis (ms : UInt64) : Duration :=
  ⟨ms.toNat * 1000000, by have h := ms.toNat_lt; omega⟩

/-- The whole milliseconds. -/
def millis (d : Duration) : Nat := d.nanos / 1000000

/-- A multiple, if it is below the bound. -/
def times? (d : Duration) (factor : Nat) : Option Duration :=
  if h : d.nanos * factor < 0x10000000000000000 * 1000000000 then some ⟨d.nanos * factor, h⟩ else none

/-- The shorter of two lengths. -/
def shorter (a b : Duration) : Duration := if a.nanos ≤ b.nanos then a else b

@[simp] theorem nanos_shorter (a b : Duration) : (a.shorter b).nanos = min a.nanos b.nanos := by
  simp only [shorter]
  split <;> omega

end Duration
end GroupCall

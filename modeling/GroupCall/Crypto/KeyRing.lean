/-
# Key rings

The media keys of one sender, by number.  Older keys stay for frames that were encrypted
just before a rotation, up to a capacity; the lowest numbers go first.  The current number
only moves forward: a late older key is kept without becoming current.
-/
import GroupCall.Crypto.KeyWrap
import GroupCall.Identity
import GroupCall.Table

namespace GroupCall

/-- The media keys of one sender. -/
structure KeyRing where
  /-- The keys that are kept. -/
  keys : Table KeyId MediaKey
  /-- The highest number since the ring was last cleared. -/
  current : Option KeyId
  /-- How many keys are kept. -/
  capacity : Nat
deriving DecidableEq

namespace KeyRing

/-- A ring without keys, for at least one. -/
def new (capacity : Nat) : KeyRing := ⟨.empty, none, max capacity 1⟩

/-- Stores a key. -/
def insert (r : KeyRing) (id : KeyId) (key : MediaKey) : KeyRing :=
  { r with
    keys := (r.keys.insert id key).keepLast r.capacity
    current := match r.current with
      | none => some id
      | some c => if c < id then some id else some c }

/-- The number of the next key of our own. -/
def nextId (r : KeyRing) : KeyId :=
  match r.current with
  | none => 0
  | some c => c + 1

/-- The key of a number. -/
def get? (r : KeyRing) (id : KeyId) : Option MediaKey := r.keys.get? id

/-- The current number with its key, if the key is still there. -/
def currentKey? (r : KeyRing) : Option (KeyId × MediaKey) :=
  r.current.bind fun id => (r.get? id).map fun key => (id, key)

/-- How many keys there are. -/
def size (r : KeyRing) : Nat := r.keys.size

/-- Whether there is no key. -/
def isEmpty (r : KeyRing) : Bool := r.keys.isEmpty

/-- Forgets every key below a number. -/
def purgeBefore (r : KeyRing) (id : KeyId) : KeyRing :=
  { r with keys := r.keys.filter fun k _ => decide (id ≤ k) }

/-- Forgets every key and the current number. -/
def clear (r : KeyRing) : KeyRing := { r with keys := .empty, current := none }

end KeyRing
end GroupCall

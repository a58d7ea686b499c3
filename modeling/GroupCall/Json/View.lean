/-
# Parts of JSON views
-/
import GroupCall.Json.Value

namespace GroupCall.Json

/-- A number of at most 32 bits as JSON. -/
def uint32 (n : UInt32) : Json := .nat n.toNat

/-- What may be missing as JSON; null stands for nothing. -/
def optional {α : Type} (f : α → Json) : Option α → Json
  | some a => f a
  | none => .null

end GroupCall.Json

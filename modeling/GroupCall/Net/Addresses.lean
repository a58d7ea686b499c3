/-
# The addresses of a host

What a look-up of a host name gives: addresses of both versions, each in the order of the
answer.  Two answers are compared as sets, through a normal form: the numbers of the
addresses, ascending and each once.
-/
import GroupCall.Ascending
import GroupCall.Net.Ip

namespace GroupCall

/-- The addresses of a host. -/
structure Addresses where
  /-- The addresses of version 4. -/
  ipv4 : List Ipv4
  /-- The addresses of version 6. -/
  ipv6 : List Ipv6
deriving DecidableEq, Repr

namespace Addresses

/-- No addresses. -/
def none : Addresses := ⟨[], []⟩

/-- The addresses of a list. -/
def ofList : List IpAddress → Addresses
  | [] => none
  | .v4 address :: rest => { ofList rest with ipv4 := address :: (ofList rest).ipv4 }
  | .v6 address :: rest => { ofList rest with ipv6 := address :: (ofList rest).ipv6 }

/-- Whether there is no address. -/
def isEmpty (a : Addresses) : Bool := a.ipv4.isEmpty && a.ipv6.isEmpty

/-- Whether two lists of addresses are the same up to order and repetition. -/
def sameSet (a b : Addresses) : Bool :=
  decide (ascending (a.ipv4.map (·.bits.toNat)) = ascending (b.ipv4.map (·.bits.toNat))) &&
    decide (ascending (a.ipv6.map Ipv6.toNat) = ascending (b.ipv6.map Ipv6.toNat))

/-- The first address of the preferred version, or else of the other. -/
def pick (a : Addresses) (preferV6 : Bool) : Option IpAddress :=
  let first4 := a.ipv4.head?.map IpAddress.v4
  let first6 := a.ipv6.head?.map IpAddress.v6
  if preferV6 then first6 <|> first4 else first4 <|> first6

/-- Whenever there is an address, one can be picked. -/
theorem pick_isSome (a : Addresses) (preferV6 : Bool) :
    (a.pick preferV6).isSome = !a.isEmpty := by
  obtain ⟨l4, l6⟩ := a
  cases l4 <;> cases l6 <;> cases preferV6 <;> rfl

end Addresses
end GroupCall

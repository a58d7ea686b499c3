/-
# The last known addresses of hosts

All connections share one cache.  An entry is replaced only by an answer with other
addresses, whatever their order.
-/
import GroupCall.Net.Addresses
import GroupCall.Table

namespace GroupCall

/-- The last known addresses of hosts. -/
structure DnsCache where
  /-- The addresses by host. -/
  hosts : Table String Addresses
deriving DecidableEq

namespace DnsCache

/-- Nothing is known. -/
def empty : DnsCache := ⟨.empty⟩

/-- The addresses known of a host. -/
def get? (c : DnsCache) (host : String) : Option Addresses := c.hosts.get? host

/-- Whether a host is known with the same addresses. -/
def agrees (c : DnsCache) (host : String) (addresses : Addresses) : Bool :=
  match c.get? host with
  | some known => known.sameSet addresses
  | none => false

/-- Stores the addresses of a host, unless it is known with the same ones; says whether they
were stored. -/
def set (c : DnsCache) (host : String) (addresses : Addresses) : DnsCache × Bool :=
  if c.agrees host addresses then (c, false) else (⟨c.hosts.insert host addresses⟩, true)

/-- Forgets a host. -/
def remove (c : DnsCache) (host : String) : DnsCache := ⟨c.hosts.erase host⟩

/-- Forgets every host. -/
def clear (_ : DnsCache) : DnsCache := empty

/-- How many hosts are known. -/
def size (c : DnsCache) : Nat := c.hosts.size

/-- Whether no host is known. -/
def isEmpty (c : DnsCache) : Bool := c.hosts.isEmpty

end DnsCache
end GroupCall

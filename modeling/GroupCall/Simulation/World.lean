/-
# What a simulated call finds around it
-/
import GroupCall.Call.Basic

namespace GroupCall

/-- What a call finds around it, apart from its relay connections. -/
structure World where
  /-- The public key of a user, if it is known and can be looked up. -/
  publicKey : UserId → Option (List UInt8)
  /-- The URL of the relay, or why there is none; nothing if there is never an answer. -/
  url : Option (Except String String)
  /-- What goes wrong in media engines. -/
  faults : EngineFaults
  /-- Fresh IVs, for each thing that a call does. -/
  ivs : Nat → SendIvs
  /-- Fresh media keys, for each thing that a call does. -/
  key : Nat → MediaKey

/-- What surrounds a call that does its thing number `done`. -/
def World.surroundings (world : World) (done : Nat) (relay : RelayState)
    (connect : String → Except RelayError Nat) : Surroundings where
  relay := relay
  relayEnds := false
  publicKey := world.publicKey
  url := world.url
  connect := connect
  ivs := world.ivs done
  key := world.key done
  faults := world.faults

end GroupCall

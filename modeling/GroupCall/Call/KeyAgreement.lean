/-
# Keys shared with other users

Our long-term secret and a directory of public keys give one shared key for every user,
under which media keys travel.  The shared key is derived anew for every use.
-/
import GroupCall.Call.Error
import GroupCall.Crypto.KeyWrap

namespace GroupCall

/-- Our secret and a directory of public keys. -/
structure KeyAgreement where
  /-- Our long-term secret. -/
  secret : IdentitySecret
  /-- The public key of a user, if it is known and can be looked up. -/
  publicKey : UserId → Option (List UInt8)

namespace KeyAgreement

/-- Our own public key. -/
def ourKey (k : KeyAgreement) : Crypto.Bytes 32 := Crypto.publicPoint k.secret

/-- The key that we share with a user. -/
def sharedWith (k : KeyAgreement) (user : UserId) : Except CallError PairwiseKey :=
  match k.publicKey user with
  | none => .error (.keyUnavailable user)
  | some bytes => (PairwiseKey.derive k.secret bytes).mapError .crypto

/-- A media key given as bytes, wrapped for a user. -/
def wrapFor (k : KeyAgreement) (user : UserId) (plain : List UInt8) : Except CallError MediaKey :=
  (k.sharedWith user).bind fun shared => (shared.wrap plain).mapError .crypto

/-- A media key that a user has wrapped for us. -/
def unwrapFrom (k : KeyAgreement) (user : UserId) (wrapped : List UInt8) :
    Except CallError MediaKey :=
  (k.sharedWith user).bind fun shared => (shared.unwrap wrapped).mapError .crypto

end KeyAgreement
end GroupCall

/-
# Why cryptographic operations fail
-/

namespace GroupCall

/-- Why a cryptographic operation fails. -/
inductive CryptoError where
  /-- A key to wrap or unwrap has the wrong size. -/
  | invalidKeySize (expected got : Nat)
  /-- A public key has the wrong size. -/
  | invalidPublicKey (got : Nat)
  /-- More bytes are to be derived than can be. -/
  | kdf
  /-- A frame is shorter than its header and its tag. -/
  | frameTooShort (got : Nat)
  /-- There is no key of that number. -/
  | unknownKeyId (id : UInt32)
  /-- There is no key to encrypt with. -/
  | noCurrentKey
  /-- All counters of a key are used up. -/
  | counterExhausted (id : UInt32)
  /-- A frame does not open. -/
  | cipher
deriving DecidableEq, Repr

namespace CryptoError

/-- The kind of an error. -/
def kind : CryptoError → String
  | .invalidKeySize _ _ => "InvalidKeySize"
  | .invalidPublicKey _ => "InvalidPublicKey"
  | .kdf => "Kdf"
  | .frameTooShort _ => "FrameTooShort"
  | .unknownKeyId _ => "UnknownKeyId"
  | .noCurrentKey => "NoCurrentKey"
  | .counterExhausted _ => "CounterExhausted"
  | .cipher => "Cipher"

/-- An error in words. -/
def message : CryptoError → String
  | .invalidKeySize expected got =>
    "invalid key size: expected " ++ toString expected ++ " bytes, got " ++ toString got
  | .invalidPublicKey got => "invalid public key size: " ++ toString got ++ " bytes"
  | .kdf => "key derivation failed"
  | .frameTooShort got => "frame too short: " ++ toString got ++ " bytes"
  | .unknownKeyId id => "no media key with id " ++ toString id.toNat
  | .noCurrentKey => "no media key has been set yet"
  | .counterExhausted id => "frame counter exhausted under key " ++ toString id.toNat
  | .cipher => "cipher operation failed"

end CryptoError
end GroupCall

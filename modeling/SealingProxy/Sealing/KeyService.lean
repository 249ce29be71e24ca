import SealingProxy.Crypto.Gcm
import SealingProxy.Crypto.Sha256
import SealingProxy.Decimal.Unsigned
import SealingProxy.Text.Blank
import SealingProxy.Text.Hex
/-! # Keys and key services

Each object is sealed with a data key of its own. A key service hands out handles for named keys,
which wrap and unwrap data keys. The local service derives its keys from a master key and wraps
data keys with AES-256-GCM, the name of the key as associated data. -/

namespace SealingProxy

inductive CryptoError where
  | encryptionFailed (reason : String)
  | decryptionFailed (reason : String)
  | backendUnavailable (keyId reason : String)
  | invalidKeyMaterial (reason : String)
  deriving DecidableEq, Repr

def CryptoError.message : CryptoError → String
  | encryptionFailed r => r
  | decryptionFailed r => r
  | backendUnavailable k r => "key " ++ k ++ ": " ++ r
  | invalidKeyMaterial r => "invalid key material: " ++ r

/-- A key that wraps data keys. Wrapping takes a nonce. -/
structure KeyHandle where
  keyId : String
  wrap : Bytes → Bytes → Except CryptoError Bytes
  unwrap : Bytes → Except CryptoError Bytes

structure KeyService where
  handle : String → Except CryptoError KeyHandle

/-- A secret of thirty-two bytes. -/
structure MasterKey where
  bytes : Bytes
  size : bytes.length = Gcm.keySize

namespace MasterKey

def ofBytes (b : Bytes) : Except CryptoError MasterKey :=
  if h : b.length = Gcm.keySize then .ok ⟨b, h⟩
  else .error (.invalidKeyMaterial
    ("master key must be exactly 32 bytes, got " ++ Decimal.text b.length))

def ofHex (s : String) : Except CryptoError MasterKey :=
  match Text.Hex.decode (String.ofList (Text.trim s.toList)) with
  | .error e => .error (.invalidKeyMaterial ("master key is not hex: " ++ e.message))
  | .ok b => ofBytes b

/-- Thirty-two zeros, for engines that never ask for a key. -/
def zero : MasterKey :=
  ⟨List.replicate Gcm.keySize 0, List.length_replicate⟩

def derive (m : MasterKey) (keyId : String) : Bytes :=
  Sha256.keyed m.bytes (utf8 keyId)

end MasterKey

namespace KeyHandle

/-- Wraps a data key: the nonce, then the data key sealed under the given key. -/
def wrapWith (key : Bytes) (keyId : String) (nonce dataKey : Bytes) : Bytes :=
  nonce ++ Gcm.encrypt key nonce (utf8 keyId) dataKey

def unwrapWith (key : Bytes) (keyId : String) (wrapped : Bytes) : Except CryptoError Bytes :=
  if wrapped.length < Gcm.nonceSize + Gcm.tagSize then
    .error (.decryptionFailed "wrapped data key is truncated")
  else
    match Gcm.decrypt? key (wrapped.take Gcm.nonceSize) (utf8 keyId)
        (wrapped.drop Gcm.nonceSize) with
    | some dataKey => .ok dataKey
    | none => .error (.decryptionFailed ("data key cannot be unwrapped with key " ++ keyId))

def derived (m : MasterKey) (keyId : String) : KeyHandle :=
  { keyId
    wrap := fun nonce dataKey => .ok (wrapWith (m.derive keyId) keyId nonce dataKey)
    unwrap := unwrapWith (m.derive keyId) keyId }

end KeyHandle

/-- The service that derives keys from a master key. It has a key for every name but the empty
one. -/
def KeyService.ofMaster (m : MasterKey) : KeyService where
  handle keyId :=
    if keyId = "" then .error (.backendUnavailable "" "empty key identifier")
    else .ok (KeyHandle.derived m keyId)

end SealingProxy

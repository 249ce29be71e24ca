import SealingProxy.Sealing.KeyService
/-! # Envelopes

A sealed object is an envelope: the length of the wrapped data key in four bytes, the wrapped data
key, a nonce, and the object sealed with the data key. An envelope opens as a whole or not at
all. -/

namespace SealingProxy

structure SealDraw where
  dataKey : Bytes
  nonce : Bytes
  wrapNonce : Bytes

def SealDraw.ofSeed (seed : Bytes) : SealDraw where
  dataKey := Sha256.keyed seed (utf8 "data key")
  nonce := (Sha256.keyed seed (utf8 "nonce")).take Gcm.nonceSize
  wrapNonce := (Sha256.keyed seed (utf8 "wrapping nonce")).take Gcm.nonceSize

namespace Envelope

/-- Bytes that hold the length of the wrapped data key. -/
def lengthSize : Nat := 4

def truncated : CryptoError :=
  .decryptionFailed "ciphertext is truncated"

def unauthentic : CryptoError :=
  .decryptionFailed "ciphertext failed authentication (corrupted or wrong key)"

def compose (wrapped nonce sealed : Bytes) : Bytes :=
  Bytes.ofUInt32 wrapped.length.toUInt32 ++ wrapped ++ nonce ++ sealed

def encrypt (key : KeyHandle) (draw : SealDraw) (plaintext : Bytes) : Except CryptoError Bytes :=
  let sealed := Gcm.encrypt draw.dataKey draw.nonce [] plaintext
  match key.wrap draw.wrapNonce draw.dataKey with
  | .error e => .error e
  | .ok wrapped =>
    if wrapped.length < UInt32.size then .ok (compose wrapped draw.nonce sealed)
    else .error (.encryptionFailed "wrapped data key too large")

/-- Opens what follows the wrapped data key, once that is unwrapped. -/
def openSealed (dataKey nonce sealed : Bytes) : Except CryptoError Bytes :=
  if dataKey.length = Gcm.keySize then
    match Gcm.decrypt? dataKey nonce [] sealed with
    | some plaintext => .ok plaintext
    | none => .error unauthentic
  else .error (.decryptionFailed
    ("unwrapped data key has " ++ Decimal.text dataKey.length ++ " bytes"))

def decrypt (key : KeyHandle) (data : Bytes) : Except CryptoError Bytes :=
  if data.length < lengthSize then .error truncated
  else
    let length := Bytes.toNat (data.take lengthSize)
    let rest := data.drop lengthSize
    if rest.length < length + (Gcm.nonceSize + Gcm.tagSize) then .error truncated
    else
      match key.unwrap (rest.take length) with
      | .error e => .error e
      | .ok dataKey =>
        let tail := rest.drop length
        openSealed dataKey (tail.take Gcm.nonceSize) (tail.drop Gcm.nonceSize)

end Envelope
end SealingProxy

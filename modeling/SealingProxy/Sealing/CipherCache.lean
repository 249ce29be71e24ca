import SealingProxy.Sealing.Envelope
import SealingProxy.Time.Instant
/-! # The cache of key handles

A handle stays in the cache as long as it is used again before it has been idle for the time to
live. Only when there is none is the key service asked. A failed request to the service leaves the
cache as it was. -/

namespace SealingProxy

structure CachedHandle where
  keyId : String
  handle : KeyHandle
  lastUse : Instant

/-- Handles by the names of their keys, each name once. -/
structure CipherCache where
  /-- The time to live of an idle handle, in nanoseconds. -/
  idle : Nat
  entries : List CachedHandle := []
  /-- How often the key service was asked. -/
  requests : Nat := 0

namespace CipherCache

/-- The entry has been idle for less than the time to live. -/
def isLive (c : CipherCache) (now : Instant) (e : CachedHandle) : Bool :=
  now.ticks < e.lastUse.ticks + c.idle

def find? (c : CipherCache) (now : Instant) (keyId : String) : Option CachedHandle :=
  c.entries.find? fun e => e.keyId == keyId && c.isLive now e

def size (c : CipherCache) (now : Instant) : Nat :=
  (c.entries.filter (c.isLive now)).length

def use (c : CipherCache) (now : Instant) (keyId : String) (handle : KeyHandle) : CipherCache :=
  { c with entries := ⟨keyId, handle, now⟩ :: c.entries.filter (·.keyId != keyId) }

/-- The failure of the service to hand out a key. Whatever the cause, the key is unavailable. -/
def unavailable (keyId : String) : CryptoError → CryptoError
  | .backendUnavailable k r => .backendUnavailable k r
  | e => .backendUnavailable keyId e.message

/-- The handle of a key, from the cache or else from the service. -/
def get (service : KeyService) (now : Instant) (keyId : String) (c : CipherCache) :
    Except CryptoError KeyHandle × CipherCache :=
  match c.find? now keyId with
  | some e => (.ok e.handle, c.use now keyId e.handle)
  | none =>
    let asked := { c with requests := c.requests + 1 }
    match service.handle keyId with
    | .ok handle => (.ok handle, asked.use now keyId handle)
    | .error e => (.error (unavailable keyId e), asked)

/-- Many calls for the handle of a key at once. They share one request to the service. -/
def getShared (service : KeyService) (now : Instant) (keyId : String) (calls : Nat)
    (c : CipherCache) : List (Except CryptoError KeyHandle) × CipherCache :=
  if calls = 0 then ([], c)
  else
    let r := c.get service now keyId
    (List.replicate calls r.1, r.2)

def encrypt (service : KeyService) (now : Instant) (draw : SealDraw) (keyId : String)
    (plaintext : Bytes) (c : CipherCache) : Except CryptoError Bytes × CipherCache :=
  match c.get service now keyId with
  | (.error e, c) => (.error e, c)
  | (.ok handle, c) => (Envelope.encrypt handle draw plaintext, c)

def decrypt (service : KeyService) (now : Instant) (keyId : String) (data : Bytes)
    (c : CipherCache) : Except CryptoError Bytes × CipherCache :=
  match c.get service now keyId with
  | (.error e, c) => (.error e, c)
  | (.ok handle, c) => (Envelope.decrypt handle data, c)

end CipherCache
end SealingProxy

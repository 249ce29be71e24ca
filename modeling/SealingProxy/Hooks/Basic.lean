import SealingProxy.Exchange
import SealingProxy.Json.Reader
import SealingProxy.ProxyError
import SealingProxy.Sealing.CipherCache
import SealingProxy.Sidecar
/-! # Hooks

A hook is called for the request half of an exchange before the request is forwarded, or for the
response half before the response reaches the client. It changes the exchange, and may use the
cached keys and the stored sessions. What chance and the clock bring in is an argument. -/

namespace SealingProxy

structure Context where
  /-- The key of a bucket. -/
  resolve : String → Option String
  keys : KeyService
  /-- The version that is recorded with each object. -/
  version : String

/-- What the hooks of an engine change, with sessions kept in a state of type `σ`. -/
structure State (σ : Type) where
  ciphers : CipherCache
  sessions : σ

/-- The circumstances of a call of a hook: the moment and the random values it draws. -/
structure Occasion extends Moment where
  draw : SealDraw
  /-- The number in a boundary that the call composes. -/
  boundaryNumber : Nat

def Occasion.boundary (o : Occasion) : String :=
  Boundary.ofNumber o.boundaryNumber

/-- What a call of a hook leaves behind, whether it fails or not. -/
structure Outcome (σ : Type) where
  result : Except ProxyError Unit
  exchange : Exchange
  state : State σ

namespace Outcome

variable {σ : Type}

def success (x : Exchange) (s : State σ) : Outcome σ :=
  ⟨.ok (), x, s⟩

def failure (e : ProxyError) (x : Exchange) (s : State σ) : Outcome σ :=
  ⟨.error e, x, s⟩

end Outcome

abbrev Hook (σ : Type) := Context → Occasion → State σ → Exchange → Outcome σ

/-- What seals a plaintext under a key. The gateway uses `CipherCache.encrypt`; the hooks that seal
take any other in its place. -/
abbrev Cipher := KeyService → Instant → SealDraw → String → Bytes → CipherCache →
  Except CryptoError Bytes × CipherCache

namespace State

variable {σ : Type}

def encrypt (s : State σ) (c : Context) (o : Occasion) (keyId : String) (plaintext : Bytes)
    (cipher : Cipher := CipherCache.encrypt) : Except ProxyError Bytes × State σ :=
  let r := cipher c.keys o.now o.draw keyId plaintext s.ciphers
  (r.1.mapError ProxyError.ofCrypto, { s with ciphers := r.2 })

def decrypt (s : State σ) (c : Context) (o : Occasion) (keyId : String) (data : Bytes) :
    Except ProxyError Bytes × State σ :=
  let r := s.ciphers.decrypt c.keys o.now keyId data
  (r.1.mapError ProxyError.ofCrypto, { s with ciphers := r.2 })

end State

namespace Resource

def read (body : Bytes) : Except ProxyError Resource :=
  match Json.read? body with
  | some (.object members) => .ok members
  | some _ => .error (.invalidJson "expected an object resource")
  | none => .error (.invalidJson Json.unreadable)

def write (r : Resource) : Bytes :=
  (Json.object r).write

end Resource

namespace Hooks

/-- The key of an upload into a bucket: that of the bucket, or else that of the bucket in the
target. An upload is never forwarded without a key. -/
def uploadKey (c : Context) (bucket : String) (urlBucket : Option String) :
    Except ProxyError String :=
  match c.resolve bucket with
  | some key => .ok key
  | none =>
    match (urlBucket.filter (· != bucket)).bind c.resolve with
    | some key => .ok key
    | none => .error (.encryptionFailed ("no encryption key for bucket " ++ bucket))

def stashFacts (r : Request) (bodyLength : Nat) (s : Sidecar) : Request :=
  { r with headers :=
      ((r.headers.set .stashedBodyLength (Decimal.text bodyLength)).set
        .stashedSize (Decimal.text s.length)).set .stashedMd5 s.md5 }

def stashedFacts (r : Request) : Except ProxyError PlaintextFacts :=
  match r.header? .stashedSize with
  | none => .error (.missingStash .stashedSize)
  | some size =>
    match r.header? .stashedMd5 with
    | none => .error (.missingStash .stashedMd5)
    | some md5 =>
      match Decimal.read? (Text.trim size.toList) with
      | none => .error (.invalidStash .stashedSize size)
      | some n => .ok ⟨n, md5⟩

def restoreFacts (request : Request) (response : Response) : Except ProxyError Response :=
  match stashedFacts request with
  | .error e => .error e
  | .ok facts =>
    match Resource.read response.body with
    | .error e => .error e
    | .ok resource => .ok (response.setBody (Resource.write (facts.applyTo resource)))

/-- The response half of every upload. A response that reports a failure stays as it is. -/
def restoreUpload {σ : Type} : Hook σ := fun _ _ s x =>
  match x.response with
  | none => .success x s
  | some response =>
    if response.isSuccess then
      match restoreFacts x.request response with
      | .error e => .failure e x s
      | .ok restored => .success { x with response := some restored } s
    else .success x s

end Hooks
end SealingProxy

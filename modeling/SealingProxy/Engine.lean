import SealingProxy.Hooks.Download
import SealingProxy.Hooks.Resumable
import SealingProxy.Session.Directory
import SealingProxy.Settings.Config
/-! # The engine

An engine tells the operation of each exchange once, at the request, and calls the two hooks of
that operation. Before it serves anything, it checks every key that the mapping can hand out: it
seals a fixed text and opens it again. -/

namespace SealingProxy

namespace Operation

variable {σ : Type} [SessionStore σ]

def requestHook (op : Operation) (c : Context) (o : Occasion) (s : State σ) (x : Exchange)
    (cipher : Cipher := CipherCache.encrypt) : Outcome σ :=
  match op with
  | multipartUpload => Hooks.multipartRequest c o s x cipher
  | mediaUpload => Hooks.mediaRequest c o s x cipher
  | sessionOpening => Hooks.openingRequest c o s x
  | sessionCompletion => Hooks.completionRequest c o s x cipher
  | download => Hooks.downloadRequest c o s x
  | resourceFetch => Hooks.resourceRequest c o s x
  | passThrough => .success x s

def responseHook : Operation → Hook σ
  | multipartUpload | mediaUpload | sessionCompletion => Hooks.restoreUpload
  | sessionOpening => Hooks.openingResponse
  | download => Hooks.downloadResponse
  | resourceFetch => Hooks.resourceResponse
  | passThrough => fun _ _ s x => .success x s

end Operation

inductive EngineError where
  | config (e : ConfigError)
  | crypto (e : CryptoError)
  | session (e : SessionError)
  | keyVerification (keyId reason : String)
  deriving DecidableEq, Repr

def EngineError.message : EngineError → String
  | config e => "Configuration error: " ++ e.message
  | crypto e => "Key management error: " ++ e.message
  | session e => "Session store error: " ++ e.message
  | keyVerification k r => "Key " ++ k ++ " failed verification: " ++ r

inductive ConfiguredStore where
  | memory (m : MemoryStore)
  | directory (d : DirectoryStore)
  deriving DecidableEq, Repr

instance : SessionStore ConfiguredStore where
  put t id s
    | .memory m => let r := SessionStore.put t id s m; (r.1, .memory r.2)
    | .directory d => let r := SessionStore.put t id s d; (r.1, .directory r.2)
  take t id
    | .memory m => let r := SessionStore.take t id m; (r.1, .memory r.2)
    | .directory d => let r := SessionStore.take t id d; (r.1, .directory r.2)
  removeExpired t
    | .memory m => let r := SessionStore.removeExpired t m; (r.1, .memory r.2)
    | .directory d => let r := SessionStore.removeExpired t d; (r.1, .directory r.2)

structure Surroundings where
  now : Instant
  /-- The random values with which a key is checked. -/
  draw : String → SealDraw
  /-- Opens a directory, and makes it where there is none. -/
  openDirectory : String → Except SessionError Directory

/-- The fixed part of an engine. What changes is a `State`. -/
structure Engine where
  classifier : Classifier
  context : Context
  /-- Everything passes through. -/
  disabled : Bool
  /-- The keys that the mapping can hand out, in ascending order. -/
  keyIds : List String

namespace Engine

variable {σ : Type}

def operation (e : Engine) (r : Request) : Operation :=
  if e.disabled then .passThrough else e.classifier.classify r

/-- The request half of an exchange. The operation stays assigned if the hook fails. -/
def onRequest [SessionStore σ] (e : Engine) (o : Occasion) (s : State σ) (x : Exchange)
    (cipher : Cipher := CipherCache.encrypt) : Outcome σ :=
  (e.operation x.request).requestHook e.context o s
    { x with operation := some (e.operation x.request) } cipher

/-- The response half of an exchange. Without a response there is nothing to do. -/
def onResponse [SessionStore σ] (e : Engine) (o : Occasion) (s : State σ) (x : Exchange) :
    Outcome σ :=
  match x.response with
  | none => .success x s
  | some _ => (x.operation.getD .passThrough).responseHook e.context o s x

def checkText : Bytes := utf8 "gcs-envelope-proxy key check"

def checkHandle (handle : KeyHandle) (draw : SealDraw) : Except String Unit :=
  match Envelope.encrypt handle draw checkText with
  | .error e => .error e.message
  | .ok ciphertext =>
    match Envelope.decrypt handle ciphertext with
    | .error e => .error e.message
    | .ok opened =>
      if opened = checkText then .ok () else .error "decrypted text does not match"

/-- Checks one key. Its handle stays in the cache. -/
def checkKey (keys : KeyService) (w : Surroundings) (keyId : String) (ciphers : CipherCache) :
    Except EngineError Unit × CipherCache :=
  match ciphers.get keys w.now keyId with
  | (.error e, ciphers) => (.error (.keyVerification keyId e.message), ciphers)
  | (.ok handle, ciphers) =>
    ((checkHandle handle (w.draw keyId)).mapError (.keyVerification keyId), ciphers)

/-- Checks keys one after the other, up to the first that fails. -/
def checkKeys (keys : KeyService) (w : Surroundings) :
    List String → CipherCache → Except EngineError Unit × CipherCache
  | [], ciphers => (.ok (), ciphers)
  | keyId :: keyIds, ciphers =>
    match checkKey keys w keyId ciphers with
    | (.error e, ciphers) => (.error e, ciphers)
    | (.ok (), ciphers) => checkKeys keys w keyIds ciphers

/-- Checks all keys of the engine, unless everything passes through. -/
def verifyKeys (e : Engine) (w : Surroundings) (ciphers : CipherCache) :
    Except EngineError Unit × CipherCache :=
  if e.disabled then (.ok (), ciphers) else checkKeys e.context.keys w e.keyIds ciphers

def create (c : Config) (keys : KeyService) : Except ConfigError (Engine × CipherCache) :=
  match c.mapping with
  | .error e => .error e
  | .ok mapping =>
    match c.cacheSpan with
    | .error e => .error e
    | .ok idle => .ok
      ({ classifier := ⟨c.interceptHosts, mapping.resolve⟩
         context := ⟨mapping.resolve, keys, c.version⟩
         disabled := c.encryptionDisabled
         keyIds := mapping.keyIds }, { idle })

/-- The key service of settings. Without a master key no key is ever asked for. -/
def keyService (c : Config) : Except CryptoError KeyService :=
  match c.masterKey with
  | none => .ok (.ofMaster .zero)
  | some digits => (MasterKey.ofHex digits).map .ofMaster

def openStore (place : SessionPlace) (ttl : Nat) (w : Surroundings) :
    Except SessionError ConfiguredStore :=
  match place with
  | .memory => .ok (.memory { ttl })
  | .directory path => (w.openDirectory path).map fun directory => .directory { ttl, directory }

/-- Starts an engine: checks the settings, makes what they ask for, checks the keys. -/
def start (c : Config) (w : Surroundings) :
    Except EngineError (Engine × State ConfiguredStore) := do
  c.validate.mapError .config
  let keys ← (keyService c).mapError .crypto
  let ttl ← c.sessionSpan.mapError .config
  let sessions ← (openStore c.sessionPlace ttl w).mapError .session
  let (engine, ciphers) ← (create c keys).mapError .config
  match engine.verifyKeys w ciphers with
  | (.error e, _) => .error e
  | (.ok (), ciphers) => .ok (engine, { ciphers, sessions })

end Engine
end SealingProxy

import SealingProxy.Json.Number
import SealingProxy.KeyMapping
import SealingProxy.Settings.SocketAddress
import SealingProxy.Time.Span
import SealingProxy.Toml.Document
import SealingProxy.Text.Utf8
/-! # Settings

The settings come from a file or from the environment. A file may leave out any of them, and
members it does not share with the settings are ignored; but what is there must have the right
type. Values with a form of their own, such as spans of time, stay texts until they are used. -/

namespace SealingProxy

def programVersion : String := "0.3.0"

inductive SessionPlace where
  | memory
  | directory (path : String)
  deriving DecidableEq, Repr

structure Config where
  listenAddress : SocketAddress := .v4 [127, 0, 0, 1] 9080
  /-- The endpoint of the storage service. -/
  endpoint : String := "https://storage.googleapis.com"
  interceptHosts : List String := ["storage.googleapis.com", "www.googleapis.com"]
  keyMapping : String := ""
  encryptionDisabled : Bool := false
  version : String := programVersion
  cipherCacheTtl : String := "4h"
  sessionTtl : String := "7d"
  /-- The largest body, in bytes. -/
  maxObjectSize : Nat := 512 * 1024 * 1024
  sessionPlace : SessionPlace := .memory
  /-- The master key of the local key service, in hexadecimal digits. -/
  masterKey : Option String := none
  logLevel : String := "gcs_envelope_proxy=info,tower_http=info"
  deriving DecidableEq, Repr

inductive ConfigError where
  /-- The file cannot be read. -/
  | io
  /-- The file is no settings file. -/
  | parse
  | duration (field : String)
  | keyMapping (e : MappingError)
  | invalid (reason : String)
  deriving DecidableEq, Repr

def ConfigError.message : ConfigError → String
  | io => "IO error: the file cannot be read"
  | parse => "Parse error: the file is no settings file"
  | duration f => "Invalid " ++ f ++ ": not a span of time"
  | keyMapping e => "Invalid key mapping: " ++ e.message
  | invalid r => "Invalid configuration: " ++ r

namespace Config

/-- A member of a table with its type, or a default where there is none. -/
def member? {α : Type} (m : Toml.Members) (name : String) (read : Toml → Option α) (default : α) :
    Option α :=
  match Fields.get? m name with
  | none => some default
  | some v => read v

/-- The tag of a value with variants and what else it holds: a table with the tag as a member, or
an array that starts with it. -/
def tagged? : Toml → Option (String × Sum Toml.Members (List Toml))
  | .table _ m => ((Fields.get? m "type").bind Toml.string?).map (·, .inl m)
  | .array (t :: rest) => t.string?.map (·, .inr rest)
  | _ => none

/-- A setting of where sessions are kept. A table may have members that do not matter, but an array
holds nothing else. -/
def sessionPlace? (v : Toml) : Option SessionPlace :=
  match tagged? v with
  | some ("memory", .inl _) | some ("memory", .inr []) => some .memory
  | some ("filesystem", .inl m) => ((Fields.get? m "path").bind Toml.string?).map .directory
  | some ("filesystem", .inr [p]) => p.string?.map .directory
  | _ => none

/-- A setting of the key service. There is only the local one. -/
def masterKey? (v : Toml) : Option (Option String) :=
  match tagged? v with
  | some ("local", .inl m) => member? m "master_key" (·.string?.map some) none
  | some ("local", .inr []) => some none
  | some ("local", .inr [k]) => k.string?.map some
  | _ => none

def ofMembers? (m : Toml.Members) : Option Config := do
  let d : Config := {}
  some {
    listenAddress := ← member? m "listen_addr" (·.string?.bind SocketAddress.read?) d.listenAddress
    endpoint := ← member? m "upstream_endpoint" Toml.string? d.endpoint
    interceptHosts := ← member? m "intercept_hosts" Toml.strings? d.interceptHosts
    keyMapping := ← member? m "kms_bucket_key_mapping" Toml.string? d.keyMapping
    encryptionDisabled := ← member? m "encryption_disabled" Toml.boolean? d.encryptionDisabled
    version := ← member? m "proxy_version" Toml.string? d.version
    cipherCacheTtl := ← member? m "cipher_cache_ttl" Toml.string? d.cipherCacheTtl
    sessionTtl := ← member? m "session_ttl" Toml.string? d.sessionTtl
    maxObjectSize := ← member? m "max_object_size" Toml.natural? d.maxObjectSize
    sessionPlace := ← member? m "session_store" sessionPlace? d.sessionPlace
    masterKey := ← member? m "kms" masterKey? d.masterKey
    logLevel := ← member? m "log_level" Toml.string? d.logLevel }

def ofFile (content : Option Bytes) : Except ConfigError Config :=
  match content.bind Text.Utf8.decode? with
  | none => .error .io
  | some s =>
    match (Toml.read? (String.ofList s)).bind ofMembers? with
    | none => .error .parse
    | some c => .ok c

def hosts (s : String) : List String :=
  (((Text.pieces ',' s.toList).map Text.trim).filter (!·.isEmpty)).map String.ofList

def isOn (s : String) : Bool :=
  s != "" && s != "0" && s != "false"

def variableNames : List String :=
  ["GCSP_CONFIG", "GCSP_LISTEN_ADDR", "GCSP_UPSTREAM_ENDPOINT", "GCSP_INTERCEPT_HOSTS",
    "GCSP_KMS_BUCKET_KEY_MAPPING", "GCSP_DISABLE_ENCRYPTION", "GCSP_CIPHER_CACHE_TTL",
    "GCSP_SESSION_TTL", "GCSP_MAX_OBJECT_SIZE", "GCSP_SESSION_DIR", "GCSP_LOCAL_MASTER_KEY",
    "GCSP_LOG_LEVEL"]

/-- The settings in environment variables. Values that cannot be read count as absent. -/
def ofEnvironment (env : String → Option String) : Config :=
  let d : Config := {}
  { listenAddress := ((env "GCSP_LISTEN_ADDR").bind SocketAddress.read?).getD d.listenAddress
    endpoint := (env "GCSP_UPSTREAM_ENDPOINT").getD d.endpoint
    interceptHosts := ((env "GCSP_INTERCEPT_HOSTS").map hosts).getD d.interceptHosts
    keyMapping := (env "GCSP_KMS_BUCKET_KEY_MAPPING").getD d.keyMapping
    encryptionDisabled := ((env "GCSP_DISABLE_ENCRYPTION").map isOn).getD false
    cipherCacheTtl := (env "GCSP_CIPHER_CACHE_TTL").getD d.cipherCacheTtl
    sessionTtl := (env "GCSP_SESSION_TTL").getD d.sessionTtl
    maxObjectSize :=
      ((env "GCSP_MAX_OBJECT_SIZE").bind fun s => Decimal.read? s.toList).getD d.maxObjectSize
    sessionPlace := ((env "GCSP_SESSION_DIR").map .directory).getD d.sessionPlace
    masterKey := env "GCSP_LOCAL_MASTER_KEY"
    logLevel := (env "GCSP_LOG_LEVEL").getD d.logLevel }

/-- The files that may hold the settings, in the order in which they are tried. -/
def files (env : String → Option String) : List String :=
  (env "GCSP_CONFIG").toList ++
    ["gcs_envelope_proxy.toml", "/etc/gcs_envelope_proxy/config.toml"]

/-- The settings in the first file that holds some, or else those in the environment. -/
def load (env : String → Option String) (content : String → Option Bytes) : Config :=
  ((files env).findSome? fun f => (ofFile (content f)).toOption).getD (ofEnvironment env)

def placeJson : SessionPlace → Json
  | .memory => .object [("type", .string "memory")]
  | .directory path => .object [("type", .string "filesystem"), ("path", .string path)]

def toJson (c : Config) : Json :=
  .object
    [("listen_addr", .string c.listenAddress.text),
      ("upstream_endpoint", .string c.endpoint),
      ("intercept_hosts", .array (c.interceptHosts.map .string)),
      ("kms_bucket_key_mapping", .string c.keyMapping),
      ("encryption_disabled", .bool c.encryptionDisabled),
      ("proxy_version", .string c.version),
      ("cipher_cache_ttl", .string c.cipherCacheTtl),
      ("session_ttl", .string c.sessionTtl),
      ("max_object_size", .number (JsonNumber.ofMagnitude false c.maxObjectSize)),
      ("session_store", placeJson c.sessionPlace),
      ("kms", .object [("type", .string "local"),
        ("master_key", (c.masterKey.map .string).getD .null)]),
      ("log_level", .string c.logLevel)]

def mapping (c : Config) : Except ConfigError KeyMapping :=
  (KeyMapping.parse c.keyMapping).mapError .keyMapping

/-- A span of time in nanoseconds. -/
def span (field text : String) : Except ConfigError Nat :=
  match Span.read? text with
  | some n => .ok n
  | none => .error (.duration field)

def cacheSpan (c : Config) : Except ConfigError Nat :=
  span "cipher_cache_ttl" c.cipherCacheTtl

def sessionSpan (c : Config) : Except ConfigError Nat :=
  span "session_ttl" c.sessionTtl

/-- Checks all settings. The first one that is wrong decides the error. -/
def validate (c : Config) : Except ConfigError Unit := do
  let _ ← c.mapping
  let _ ← c.cacheSpan
  let _ ← c.sessionSpan
  if c.interceptHosts.isEmpty then
    throw (.invalid "intercept_hosts must name at least one host")
  if !c.encryptionDisabled && c.masterKey.isNone then
    throw (.invalid "kms.master_key (or GCSP_LOCAL_MASTER_KEY) is required")

end Config
end SealingProxy

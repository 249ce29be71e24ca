import SealingProxy.CommandLine.Arguments
import SealingProxy.CommandLine.LogFilter
import SealingProxy.Gateway
import SealingProxy.Text.Quoted
/-! # A run of the program

A run reads the command line and the settings, logs the settings, starts the engine and listens.
Whatever it finds on its way is an argument, so that a run up to the moment of serving is one
value. -/

namespace SealingProxy

structure World extends Surroundings where
  environment : String → Option String
  content : String → Option Bytes
  /-- When the program was built. -/
  buildTime : String
  /-- The address is free to listen on. -/
  isFree : SocketAddress → Bool

inductive RunError where
  /-- The settings file of the command line. -/
  | settings (e : ConfigError)
  /-- The listening address of the command line. -/
  | address
  | engine (e : EngineError)
  /-- The listening address is not free. -/
  | listen
  deriving DecidableEq, Repr

def RunError.message : RunError → String
  | settings e => e.message
  | address => "invalid socket address syntax"
  | engine e => e.message
  | listen => "the listening address is not free"

inductive Run where
  /-- It does not start. -/
  | stopped (reason : Stop)
  /-- It breaks off before it logs anything, for the filter of the log cannot be cut. -/
  | aborted
  | failed (log : List LogLine) (e : RunError)
  /-- It serves until it is told to end. -/
  | serving (log : List LogLine) (address : SocketAddress)
  deriving DecidableEq, Repr

namespace Run

def programName : String := "gcs_envelope_proxy"

def exitCode : Run → Nat
  | stopped .misuse => 2
  | aborted => 101
  | stopped _ | serving _ _ => 0
  | failed _ _ => 1

def log : Run → List LogLine
  | stopped _ | aborted => []
  | failed l _ | serving l _ => l

/-- What stands on the standard output besides the log. -/
def printed : Run → List String
  | stopped .version => [programName ++ " " ++ programVersion]
  | stopped .help =>
    ["Transparent envelope-encryption proxy for the Cloud Storage JSON API", "",
      "Usage: " ++ programName ++ " [OPTIONS]", "", "Options:",
      "  -c, --config <FILE>          Path to configuration file",
      "  -l, --listen <ADDR>          Listen address (overrides config)",
      "  -u, --upstream <URL>         Storage endpoint (overrides config)",
      "  -k, --key-mapping <MAPPING>  Bucket key mapping (overrides config)",
      "  -v, --verbose                Enable verbose logging",
      "  -h, --help                   Print help",
      "  -V, --version                Print version"]
  | _ => []

def variableNames : List String :=
  "RUST_LOG" :: Config.variableNames

/-- The settings before the command line overrides any: those of the file it names, or else those
that are found. -/
def foundSettings (w : World) (a : Arguments) : Except ConfigError Config :=
  match a.config with
  | some file => Config.ofFile (w.content file)
  | none => .ok (Config.load w.environment w.content)

def override (a : Arguments) (c : Config) : Except RunError Config :=
  let c := { c with
    endpoint := a.endpoint.getD c.endpoint
    keyMapping := a.keyMapping.getD c.keyMapping }
  match a.listen with
  | none => .ok c
  | some text =>
    match SocketAddress.read? text with
    | none => .error .address
    | some address => .ok { c with listenAddress := address }

def verboseFilter : String := "gcs_envelope_proxy=trace,tower_http=trace"

/-- The filter of the log. That of the environment wins unless it is malformed. -/
def filter (w : World) (a : Arguments) (c : Config) : Except LogDirective.Fault LogFilter :=
  let other := LogFilter.readSome (if a.verbose then verboseFilter else c.logLevel)
  match (w.environment "RUST_LOG").map LogFilter.read with
  | none | some (.error .malformed) => other
  | some r => r

/-- A line of the program itself. -/
def notice (level : LogLevel) (text : String) : LogLine :=
  ⟨level, programName, text⟩

/-- A line of one of its parts. -/
def partNotice (level : LogLevel) (part text : String) : LogLine :=
  ⟨level, programName ++ "::" ++ part, text⟩

def placeText : SessionPlace → String
  | .memory => "memory"
  | .directory path => "filesystem (" ++ Text.Quoted.text path ++ ")"

def settingsLog (w : World) (c : Config) : List LogLine :=
  ["Starting GCS Envelope Proxy",
    "  Version: " ++ c.version ++ " (built " ++ w.buildTime ++ ")",
    "  Listen address: " ++ c.listenAddress.text,
    "  Upstream: " ++ c.endpoint,
    "  Intercepted hosts: " ++ ", ".intercalate c.interceptHosts,
    "  Max object size: " ++ Decimal.text (c.maxObjectSize / 1024 / 1024) ++ " MB",
    "  Cipher cache TTL: " ++ c.cipherCacheTtl,
    "  Session store: " ++ placeText c.sessionPlace].map (notice .info) ++
  (if c.encryptionDisabled then
    [notice .warn "  Encryption is DISABLED: all traffic is forwarded unmodified"] else [])

def storeLog (c : Config) : List LogLine :=
  match c.sessionPlace with
  | .memory => []
  | .directory path => [partNotice .info "session" ("Resumable sessions stored under " ++ path)]

def mappingLog (c : Config) : List LogLine :=
  if !c.encryptionDisabled && (c.mapping.toOption.any (·.isEmpty)) then
    [partNotice .info "engine" "No bucket key mapping configured; all traffic passes through"]
  else []

def requestLog (keyId : String) : LogLine :=
  partNotice .debug "crypto::cache" ("Building cipher handle for key " ++ keyId)

def keyLog (keyId : String) : List LogLine :=
  [requestLog keyId, partNotice .info "engine" ("Verified key " ++ keyId)]

def checkedKeys (c : Config) : List String :=
  if c.encryptionDisabled then [] else (c.mapping.toOption.map (·.keyIds)).getD []

def engineLog (c : Config) : Option EngineError → List LogLine
  | none => storeLog c ++ mappingLog c ++ (checkedKeys c).flatMap keyLog
  | some (.keyVerification keyId _) =>
    storeLog c ++ mappingLog c ++
      ((checkedKeys c).takeWhile (· != keyId)).flatMap keyLog ++ [requestLog keyId]
  | some _ => []

/-- The run once its settings are known. -/
def serve (w : World) (f : LogFilter) (c : Config) : Run :=
  match Engine.start c w.toSurroundings with
  | .error e => .failed ((settingsLog w c ++ engineLog c (some e)).filter f.allows) (.engine e)
  | .ok _ =>
    let log := settingsLog w c ++ engineLog c none
    if w.isFree c.listenAddress then
      .serving ((log ++ [notice .info
        ("GCS Envelope Proxy listening on http://" ++ c.listenAddress.text)]).filter f.allows)
        c.listenAddress
    else .failed (log.filter f.allows) .listen

def ofArguments (w : World) (args : List String) : Run :=
  match Arguments.parse args with
  | .error reason => .stopped reason
  | .ok a =>
    match foundSettings w a with
    | .error e => .failed [] (.settings e)
    | .ok found =>
      match filter w a found, override a found with
      | .error _, _ => .aborted
      | .ok _, .error e => .failed [] e
      | .ok f, .ok c => serve w f c

end Run
end SealingProxy

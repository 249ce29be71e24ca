import SealingProxy.Crypto.Sha256
import SealingProxy.Session.Store
import SealingProxy.Text.Hex
/-! # Sessions in a directory

Each session is a file named by the digest of its upload id. A record is written under a temporary
name and then renamed, so that it is there as a whole or not at all. It is taken by renaming it to
a claim, which only one taker can do, and then reading and removing the claim. Temporary files and
claims that are old were left behind by calls that never ended, and are removed with the expired
records. Every step below touches the directory once. -/

namespace SealingProxy

inductive Node where
  | file (content : Bytes) (modified : Instant)
  | folder (modified : Instant)
  deriving DecidableEq, Repr

def Node.modified : Node → Instant
  | file _ t => t
  | folder t => t

inductive FileFault where
  | notFound
  | wrongKind
  deriving DecidableEq, Repr

def FileFault.message : FileFault → String
  | notFound => "No such file or directory"
  | wrongKind => "Is a directory"

/-- The named nodes of a directory, or nothing once the directory itself is gone. -/
structure Directory where
  nodes : Option (List (String × Node)) := some []
  deriving DecidableEq, Repr

namespace Directory

def find? (d : Directory) (name : String) : Option Node :=
  d.nodes.bind fun ns => (ns.find? (·.1 == name)).map (·.2)

def list (d : Directory) : Except FileFault (List String) :=
  match d.nodes with
  | some ns => .ok (ns.map (·.1))
  | none => .error .notFound

def place (d : Directory) (name : String) (n : Node) : Directory :=
  ⟨d.nodes.map fun ns => ns.filter (·.1 != name) ++ [(name, n)]⟩

def vacate (d : Directory) (name : String) : Directory :=
  ⟨d.nodes.map fun ns => ns.filter (·.1 != name)⟩

def create (d : Directory) (name : String) (content : Bytes) (now : Instant) :
    Except FileFault Directory :=
  match d.nodes with
  | some _ => .ok (d.place name (.file content now))
  | none => .error .notFound

def read (d : Directory) (name : String) : Except FileFault Bytes :=
  match d.find? name with
  | some (.file content _) => .ok content
  | some (.folder _) => .error .wrongKind
  | none => .error .notFound

def remove (d : Directory) (name : String) : Except FileFault Directory :=
  match d.find? name with
  | some (.file _ _) => .ok (d.vacate name)
  | some (.folder _) => .error .wrongKind
  | none => .error .notFound

/-- Gives a node another name, in place of a file that has it. A renamed file keeps the time of
its last change. A file does not take the place of a folder, nor a folder that of a file. -/
def rename (d : Directory) (source target : String) : Except FileFault Directory :=
  match d.find? source, d.find? target with
  | none, _ => .error .notFound
  | some n, none => .ok ((d.vacate source).place target n)
  | some (.file c t), some (.file _ _) => .ok ((d.vacate source).place target (.file c t))
  | some _, some _ => .error .wrongKind

end Directory

structure DirectoryStore where
  ttl : Nat
  directory : Directory := {}
  deriving DecidableEq, Repr

namespace DirectoryStore
open Text

def digest (id : String) : String :=
  Hex.encode (Sha256.digest (utf8 id))

def recordName (id : String) : String :=
  digest id ++ ".json"

def claimName (id token : String) : String :=
  digest id ++ ".claimed-" ++ token

def temporaryStart : String := ".session-"

def temporaryName (token : String) : String :=
  temporaryStart ++ token

def occursIn (part : List Char) : List Char → Bool
  | [] => part.isEmpty
  | c :: s => part.isPrefixOf (c :: s) || occursIn part s

/-- The name is that of a temporary file or of a claim. -/
def isPassing (name : String) : Bool :=
  temporaryStart.toList.isPrefixOf name.toList || occursIn ".claimed-".toList name.toList

/-- The name has the extension of records. A dot at the start of a name starts no extension. -/
def isRecordName (name : String) : Bool :=
  match cutLast '.' name.toList with
  | some (stem, extension) => !stem.isEmpty && extension == "json".toList
  | none => false

/-- Files of calls that never ended are older than ten minutes, in nanoseconds. -/
def passingAge : Nat := 600 * 1000000000

def ofFault (f : FileFault) : SessionError :=
  .io f.message

/-- First step of putting a session: writes it under a temporary name. -/
def stage (d : Directory) (now : Instant) (token : String) (s : Session) :
    Except SessionError Directory :=
  (d.create (temporaryName token) s.write now).mapError ofFault

/-- Second step of putting a session: renames it to its record. -/
def publish (d : Directory) (token id : String) : Except SessionError Directory :=
  (d.rename (temporaryName token) (recordName id)).mapError ofFault

/-- Puts a session. If the record cannot be put in place, nothing stays behind. -/
def put (t : Moment) (id : String) (s : Session) (d : Directory) :
    Except SessionError Unit × Directory :=
  match stage d t.now t.token s with
  | .error e => (.error e, d)
  | .ok staged =>
    match publish staged t.token id with
    | .error e => (.error e, staged.vacate (temporaryName t.token))
    | .ok published => (.ok (), published)

/-- First step of taking a session: renames its record to a claim. -/
def claim (d : Directory) (token id : String) : Except SessionError Directory :=
  (d.rename (recordName id) (claimName id token)).mapError fun f =>
    if f = .notFound then .notFound id else ofFault f

/-- Last step of taking a session: removes the claim, as far as that can be done. -/
def discard (d : Directory) (name : String) : Directory :=
  match d.remove name with
  | .ok d' => d'
  | .error _ => d

/-- The session in a claim that was read, unless it is expired. -/
def judge (ttl : Nat) (now : Instant) (id : String) :
    Except FileFault Bytes → Except SessionError Session
  | .error f => .error (ofFault f)
  | .ok content =>
    match Session.read? content with
    | none => .error (.corrupt (recordName id) "unreadable")
    | some s => if s.isExpired ttl now then .error (.notFound id) else .ok s

def take (ttl : Nat) (t : Moment) (id : String) (d : Directory) :
    Except SessionError Session × Directory :=
  match claim d t.token id with
  | .error e => (.error e, d)
  | .ok claimed =>
    (judge ttl t.now id (claimed.read (claimName id t.token)),
      discard claimed (claimName id t.token))

def isLeftBehind (d : Directory) (now : Instant) (name : String) : Bool :=
  match d.find? name with
  | some n => n.modified.ticks + passingAge < now.ticks
  | none => false

/-- Whether a record is expired or cannot be understood. A record that is gone is neither. -/
def isDeadRecord (ttl : Nat) (now : Instant) :
    Except FileFault Bytes → Except SessionError Bool
  | .error .notFound => .ok false
  | .error f => .error (ofFault f)
  | .ok content =>
    match Session.read? content with
    | none => .ok true
    | some s => .ok (s.isExpired ttl now)

/-- First step of visiting a name in a cleanup: decides whether it is to be removed. -/
def isDead (ttl : Nat) (now : Instant) (name : String) (d : Directory) :
    Except SessionError Bool :=
  if isPassing name then .ok (isLeftBehind d now name)
  else if isRecordName name then isDeadRecord ttl now (d.read name)
  else .ok false

/-- Second step of visiting a name in a cleanup: removes it and counts it. -/
def removeDead (name : String) (d : Directory) (count : Nat) : Directory × Nat :=
  match d.remove name with
  | .ok d' => (d', count + 1)
  | .error _ => (d, count)

/-- Visits names one after the other. A record that cannot be read ends the cleanup. -/
def visit (ttl : Nat) (now : Instant) (d : Directory) (count : Nat) :
    List String → Except SessionError Nat × Directory
  | [] => (.ok count, d)
  | name :: names =>
    match isDead ttl now name d with
    | .error e => (.error e, d)
    | .ok false => visit ttl now d count names
    | .ok true =>
      let r := removeDead name d count
      visit ttl now r.1 r.2 names

/-- Removes what is expired or left behind, and tells how much that was. -/
def cleanUp (ttl : Nat) (now : Instant) (d : Directory) : Except SessionError Nat × Directory :=
  match d.list with
  | .error f => (.error (ofFault f), d)
  | .ok names => visit ttl now d 0 names

end DirectoryStore

instance : SessionStore DirectoryStore where
  put t id s m :=
    let r := DirectoryStore.put t id s m.directory
    (r.1, { m with directory := r.2 })
  take t id m :=
    let r := DirectoryStore.take m.ttl t id m.directory
    (r.1, { m with directory := r.2 })
  removeExpired t m :=
    let r := DirectoryStore.cleanUp m.ttl t.now m.directory
    (r.1, { m with directory := r.2 })

end SealingProxy

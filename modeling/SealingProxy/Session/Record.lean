import SealingProxy.Json.Outline
import SealingProxy.Json.Printer
import SealingProxy.Time.Instant
/-! # Session records

An upload session is opened for an object and completed by one later request. Its record tells
which object that is. Records are JSON objects. Reading ignores members it does not know, refuses
repeated ones, and also takes an array of the four values in order. -/

namespace SealingProxy

/-- What an upload session was opened for. -/
structure Session where
  bucket : String
  objectName : String
  /-- The media type declared at the opening. -/
  contentType : Option String := none
  createdAt : Instant
  deriving DecidableEq, Repr

namespace Session

/-- The session is older than its time to live, in nanoseconds. -/
def isExpired (s : Session) (ttl : Nat) (now : Instant) : Bool :=
  ttl < now.since s.createdAt

def toJson (s : Session) : Json :=
  .object ([("bucket", .string s.bucket), ("object_name", .string s.objectName)] ++
    (match s.contentType with
      | some t => [("content_type", .string t)]
      | none => []) ++
    [("created_at", .string s.createdAt.text)])

def write (s : Session) : Bytes :=
  s.toJson.write

/-- A member that may be absent or null. -/
def optional? : Option Json → Option (Option String)
  | none => some none
  | some .null => some none
  | some (.string s) => some (some s)
  | some _ => none

def ofValues? (bucket objectName : Json) (contentType : Option Json) (createdAt : Json) :
    Option Session := do
  let bucket ← bucket.string?
  let objectName ← objectName.string?
  let contentType ← optional? contentType
  let createdAt ← Instant.read? (← createdAt.string?)
  some { bucket, objectName, contentType, createdAt }

def names : List String :=
  ["bucket", "object_name", "content_type", "created_at"]

/-- No name of a record occurs twice among the members. -/
def isSingle (members : Fields Json) : Bool :=
  names.all fun n => (members.filter (·.1 == n)).length ≤ 1

def ofJson? : Json → Option Session
  | .object members =>
    if isSingle members then
      match Fields.get? members "bucket", Fields.get? members "object_name",
          Fields.get? members "created_at" with
      | some b, some o, some c => ofValues? b o (Fields.get? members "content_type") c
      | _, _, _ => none
    else none
  | .array [b, o, t, c] => ofValues? b o (some t) c
  | _ => none

/-- The session of an outline. Members of other names are not looked at. -/
def ofOutline? (members : Fields Bytes) : Option Session :=
  ((members.filter (names.contains ·.1)).mapM fun m => (Json.read? m.2).map (m.1, ·)).bind
    fun known => ofJson? (.object known)

def read? (s : Bytes) : Option Session :=
  match Json.readRepeated? s with
  | some v => ofJson? v
  | none => (Json.Outline.read? s).bind ofOutline?

end Session
end SealingProxy

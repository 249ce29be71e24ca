import SealingProxy.Message
import SealingProxy.ObjectPath
/-! # What a request asks for

A request counts only if it goes to a host that is intercepted and names a bucket that has a key.
Its operation then follows from its method, its path and three parameters. Everything else passes
through. -/

namespace SealingProxy

inductive Operation where
  /-- An upload whose body holds the resource and the object. -/
  | multipartUpload
  /-- An upload whose body is the object. -/
  | mediaUpload
  /-- The opening of an upload session. -/
  | sessionOpening
  /-- The request that carries the object of a session. -/
  | sessionCompletion
  /-- The download of an object. -/
  | download
  /-- A request for the resource of an object. -/
  | resourceFetch
  /-- Anything else. -/
  | passThrough
  deriving DecidableEq, Repr

namespace Operation

def label : Operation → String
  | multipartUpload => "multipart-upload"
  | mediaUpload => "single-part-upload"
  | sessionOpening => "resumable-init"
  | sessionCompletion => "resumable-put"
  | download => "simple-download"
  | resourceFetch => "metadata-request"
  | passThrough => "pass-through"

def all : List Operation :=
  [multipartUpload, mediaUpload, sessionOpening, sessionCompletion, download, resourceFetch,
    passThrough]

def isHandled (o : Operation) : Bool :=
  o != passThrough

end Operation

/-- The rules by which requests are told apart: the hosts that count and the keys of buckets. -/
structure Classifier where
  hosts : List String
  resolve : String → Option String

namespace Classifier
open Text ObjectPath

/-- The host without a port. Only digits after the last colon make a port. -/
def stripPort (host : String) : String :=
  match cutLast ':' host.toList with
  | some (name, port) => if port.all Char.isDigit then String.ofList name else host
  | none => host

/-- The host is intercepted. Ports and the case of letters do not count. -/
def interceptsHost (c : Classifier) (host : String) : Bool :=
  (c.hosts.map lower).contains (lower (stripPort host))

def uploadOperation? (r : Request) : Option Operation :=
  if startsWith r.path uploadRoot ∧ r.method = "POST" then
    if r.query.get? "uploadType" = some "multipart" then some .multipartUpload
    else if r.query.get? "uploadType" = some "media" then some .mediaUpload
    else none
  else none

def sessionOperation? (r : Request) : Option Operation :=
  if startsWith r.path resumableRoot ∨
      (startsWith r.path uploadRoot ∧ r.query.get? "uploadType" = some "resumable") then
    if r.method = "POST" then some .sessionOpening
    else if r.method = "PUT" then some .sessionCompletion
    else none
  else none

/-- Requests under the root of resources. Resources of buckets and listings pass through. -/
def resourceOperation? (r : Request) : Option Operation :=
  if startsWith r.path resourceRoot ∧ r.method = "GET" then
    if (object? r.path).isNone then some .passThrough
    else match r.query.get? "alt" with
      | none => some .resourceFetch
      | some alt =>
        if alt = "json" then some .resourceFetch
        else if alt = "media" then some .download
        else some .passThrough
  else none

/-- Downloads under their own root, and downloads by the short form of path. -/
def downloadOperation? (r : Request) : Option Operation :=
  if r.method = "GET" ∧ startsWith r.path downloadRoot then some .download
  else if r.method = "GET" ∧ !isInterface r.path ∧ !r.query.contains "alt" ∧
      !r.query.contains "fields" ∧ (object? r.path).isSome then some .download
  else none

/-- The operation of a request whose bucket has a key. The first rule that applies decides. -/
def operation (r : Request) : Operation :=
  ((((uploadOperation? r).or (sessionOperation? r)).or (resourceOperation? r)).or
    (downloadOperation? r)).getD .passThrough

def hasKey (c : Classifier) (r : Request) : Bool :=
  match bucket? r.path with
  | some bucket => (c.resolve bucket).isSome
  | none => false

def classify (c : Classifier) (r : Request) : Operation :=
  if c.interceptsHost r.host && c.hasKey r then operation r else .passThrough

end Classifier
end SealingProxy

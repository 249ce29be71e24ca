import SealingProxy.Text.Percent
import SealingProxy.Text.Split
/-! # Buckets and objects in request paths

An interface path has one of four starts, then the bucket, then `/o/` and the object. Every other
path is of the short form `/bucket/object`, unless it lies under one of the interface roots. The
path is cut before its escapes are resolved, so an escaped slash belongs to a name. -/

namespace SealingProxy.ObjectPath
open Text

def uploadRoot : String := "/upload/storage/v1/"

def resumableRoot : String := "/resumable/upload/storage/v1/"

def resourceRoot : String := "/storage/v1/b/"

def downloadRoot : String := "/download/storage/v1/"

/-- The starts of paths after which the bucket stands. -/
def bucketRoots : List String :=
  ["/storage/v1/b/", "/upload/storage/v1/b/", "/resumable/upload/storage/v1/b/",
    "/download/storage/v1/b/"]

/-- The starts that no path of the short form has. -/
def interfaceRoots : List String :=
  ["/upload/", "/resumable/", "/storage/", "/download/"]

def startsWith (path root : String) : Bool :=
  root.toList.isPrefixOf path.toList

def isInterface (path : String) : Bool :=
  interfaceRoots.any (startsWith path)

/-- The names in a path, their escapes not yet resolved. -/
structure Segments where
  bucket : List Char
  object : Option (List Char)
  deriving DecidableEq, Repr

/-- The names after an interface start. The object follows a segment `o`. -/
def interfaceSegments (rest : List Char) : Segments :=
  match cut '/' rest with
  | none => ⟨rest, none⟩
  | some (bucket, tail) => ⟨bucket, dropStart? ['o', '/'] tail⟩

def shortSegments (path : List Char) : Segments :=
  let rest := (dropStart? ['/'] path).getD path
  match cut '/' rest with
  | none => ⟨rest, none⟩
  | some (bucket, object) => ⟨bucket, some object⟩

def segments? (path : String) : Option Segments :=
  match bucketRoots.findSome? fun root => dropStart? root.toList path.toList with
  | some rest => some (interfaceSegments rest)
  | none => if isInterface path then none else some (shortSegments path.toList)

def bucket? (path : String) : Option String :=
  match segments? path with
  | some s =>
    if s.bucket.isEmpty then none else some (Percent.decodeSegment (String.ofList s.bucket))
  | none => none

/-- The object that a path names. Paths of buckets and of listings name none. -/
def object? (path : String) : Option String :=
  match segments? path with
  | some ⟨bucket, some object⟩ =>
    if bucket.isEmpty || object.isEmpty then none
    else some (Percent.decodeSegment (String.ofList object))
  | _ => none

def uploadPath (bucket : String) : String :=
  "/upload/storage/v1/b/" ++ Percent.encodeSegment bucket ++ "/o"

end SealingProxy.ObjectPath

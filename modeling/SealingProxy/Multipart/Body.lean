import SealingProxy.Multipart.Delimiter
import SealingProxy.Multipart.Part
import SealingProxy.Json.Printer
import SealingProxy.Json.Reader
/-! # Bodies of multipart uploads

Such a body has two parts: the resource of the object as a JSON object, then the object. Reading
accepts bare line feeds and text around the parts. Writing always ends lines with a carriage return
and a line feed, and states the true length wherever a part has a length header. -/

namespace SealingProxy

structure MultipartBody where
  boundary : String
  metadata : Resource
  metadataHeaders : PartHeaders
  payload : Bytes
  payloadHeaders : PartHeaders

namespace MultipartBody

def lineEnd : Bytes := [13, 10]

def readMetadata (content : Bytes) : Except MultipartError Resource :=
  match Json.read? content with
  | none => .error (.invalidMetadata Json.unreadable)
  | some (.object members) => .ok members
  | some v => .error (.invalidMetadata ("found " ++ v.kind))

def parse (body : Bytes) (contentType : String) : Except MultipartError MultipartBody :=
  match Boundary.ofContentType contentType with
  | .error e => .error e
  | .ok boundary =>
    match Delimiter.parts (Delimiter.ofBoundary boundary) body with
    | .error e => .error e
    | .ok [first, second] =>
      match readMetadata (Part.read first).2 with
      | .error e => .error e
      | .ok metadata => .ok
        { boundary, metadata, metadataHeaders := (Part.read first).1,
          payload := (Part.read second).2, payloadHeaders := (Part.read second).1 }
    | .ok parts => .error (.partCount parts.length)

/-- Writes a header line of a part whose content has the given length. -/
def writeField (length : Nat) (field : String × String) : Bytes :=
  let value :=
    if Text.sameLetters field.1 "content-length" then Decimal.text length else field.2
  utf8 field.1 ++ utf8 ": " ++ utf8 value ++ lineEnd

def writePart (delimiter : Bytes) (headers : PartHeaders) (content : Bytes) : Bytes :=
  delimiter ++ lineEnd ++ headers.entries.flatMap (writeField content.length) ++ lineEnd ++
    content ++ lineEnd

def write (b : MultipartBody) : Bytes :=
  let delimiter := Delimiter.ofBoundary b.boundary
  writePart delimiter b.metadataHeaders (Json.object b.metadata).write ++
    writePart delimiter b.payloadHeaders b.payload ++ delimiter ++ utf8 "--" ++ lineEnd

end MultipartBody
end SealingProxy

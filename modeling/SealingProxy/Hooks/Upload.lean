import SealingProxy.Hooks.Basic
import SealingProxy.Multipart.Body
/-! # Uploads

An upload leaves the proxy as a multipart body: the resource with the sidecar, then the sealed
object. A multipart upload keeps its boundary, its part headers and the rest of its resource. An
upload of the bare object is composed anew. -/

namespace SealingProxy.Hooks

variable {σ : Type}

/-- The bucket that a resource names, up to a slash. -/
def namedBucket? (r : Resource) : Option String :=
  match (Fields.get? r "bucket").bind Json.string? with
  | none => none
  | some b =>
    let name := b.toList.takeWhile (· != '/')
    if name.isEmpty then none else some (String.ofList name)

/-- A multipart upload as it was received: its parts and the key it is sealed under. -/
def readMultipart (c : Context) (r : Request) : Except ProxyError (MultipartBody × String) :=
  match r.header? .contentType with
  | none => .error (.malformedMultipart "missing Content-Type")
  | some contentType =>
    match MultipartBody.parse r.body contentType with
    | .error e => .error (.ofMultipart e)
    | .ok body =>
      let urlBucket := ObjectPath.bucket? r.path
      let bucket := ((namedBucket? body.metadata).or urlBucket).getD ""
      match uploadKey c bucket urlBucket with
      | .error e => .error e
      | .ok keyId => .ok (body, keyId)

def sealMultipart (r : Request) (body : MultipartBody) (sidecar : Sidecar) (ciphertext : Bytes) :
    Request :=
  (stashFacts r r.body.length sidecar).setBody
    { body with payload := ciphertext, metadata := sidecar.writeInto body.metadata }.write

def multipartRequest (c : Context) (o : Occasion) (s : State σ) (x : Exchange)
    (cipher : Cipher := CipherCache.encrypt) : Outcome σ :=
  match readMultipart c x.request with
  | .error e => .failure e x s
  | .ok (body, keyId) =>
    match s.encrypt c o keyId body.payload cipher with
    | (.error e, s) => .failure e x s
    | (.ok ciphertext, s) =>
      let sidecar := Sidecar.ofPlaintext body.payload keyId c.version
      .success { x with request := sealMultipart x.request body sidecar ciphertext } s

def defaultContentType : String := "application/octet-stream"

def objectContentType (r : Request) : String :=
  match r.header? .contentType with
  | some t => if t = "" then defaultContentType else t
  | none => defaultContentType

/-- The parameters that do not pass from an upload of a bare object to the composed one. -/
def uploadParameters : List String :=
  ["name", "uploadType", "alt", "upload_id"]

def bodyHeaders : List HeaderName :=
  [.expect, .contentRange, .contentMd5, .storedHash, .uploadLength, .uploadType]

def composeBody (boundary bucket name contentType : String) (sidecar : Sidecar)
    (ciphertext : Bytes) : MultipartBody :=
  { boundary
    metadata := sidecar.writeInto
      [("bucket", .string bucket), ("contentType", .string contentType), ("name", .string name)]
    metadataHeaders := ⟨[("Content-Type", "application/json"), ("MIME-Version", "1.0")]⟩
    payload := ciphertext
    payloadHeaders := ⟨[("Content-Type", contentType), ("MIME-Version", "1.0"),
      ("Content-Transfer-Encoding", "binary")]⟩ }

def composeUpload (r : Request) (boundary bucket name : String) (sidecar : Sidecar)
    (ciphertext : Bytes) : Request :=
  let body := composeBody boundary bucket name (objectContentType r) sidecar ciphertext
  let query := ((r.query.without uploadParameters).set "uploadType" "multipart").set "alt" "json"
  let headers := ((r.headers.eraseAll bodyHeaders).set .contentType
    (Boundary.contentType boundary)).set .accept "application/json"
  (stashFacts { r with method := "POST", query, headers } r.body.length sidecar).setBody body.write

/-- Seals the object in the body of a request and composes the upload of it. The object is named
by a parameter. -/
def composeSealed (c : Context) (o : Occasion) (s : State σ) (r : Request)
    (bucket keyId : String) (cipher : Cipher := CipherCache.encrypt) :
    Except ProxyError Request × State σ :=
  match (r.query.get? "name").filter (· != "") with
  | none => (.error .missingObjectName, s)
  | some name =>
    match s.encrypt c o keyId r.body cipher with
    | (.error e, s) => (.error e, s)
    | (.ok ciphertext, s) =>
      (.ok (composeUpload r o.boundary bucket name
        (Sidecar.ofPlaintext r.body keyId c.version) ciphertext), s)

def mediaRequest (c : Context) (o : Occasion) (s : State σ) (x : Exchange)
    (cipher : Cipher := CipherCache.encrypt) : Outcome σ :=
  let bucket := (ObjectPath.bucket? x.request.path).getD ""
  match uploadKey c bucket none with
  | .error e => .failure e x s
  | .ok keyId =>
    match composeSealed c o s x.request bucket keyId cipher with
    | (.error e, s) => .failure e x s
    | (.ok request, s) => .success { x with request } s

end SealingProxy.Hooks

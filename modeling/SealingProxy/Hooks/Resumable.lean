import SealingProxy.Hooks.Ranges
import SealingProxy.Hooks.Upload
/-! # Upload sessions

A session is opened by one request and completed by another that carries the whole object. The
response to the opening names the session; what it was opened for is stored under that name. The
completion takes it from the store and becomes a composed upload of that object. -/

namespace SealingProxy.Hooks

variable {σ : Type}

/-- The request half of an opening. The declared length is that of the plaintext and does not hold
for what will be stored. -/
def openingRequest : Hook σ := fun _ _ s x =>
  .success { x with request :=
    { x.request with headers := x.request.headers.erase .uploadLength } } s

def locatedUploadId? (r : Response) : Option String :=
  match r.header? .location with
  | none => none
  | some location =>
    match Text.cut '?' location.toList with
    | none => none
    | some (_, query) => (Query.parse (String.ofList query)).get? "upload_id"

/-- The upload id that a response assigns: the one in its location, or else the one in its own
header. -/
def uploadId? (r : Response) : Option String :=
  ((locatedUploadId? r).or (r.header? .uploadId)).filter (· != "")

def isSpaceByte (b : UInt8) : Bool :=
  b == 32 || b == 9 || b == 10 || b == 12 || b == 13

/-- The resource that an opening declares. A blank body declares nothing. -/
def declaredResource (body : Bytes) : Except ProxyError Resource :=
  if body.all isSpaceByte then .ok [] else Resource.read body

/-- A text in a resource that is not empty. -/
def field? (r : Resource) (name : String) : Option String :=
  ((Fields.get? r name).bind Json.string?).filter (· != "")

def declaredSession (r : Request) (now : Instant) : Except ProxyError Session :=
  match declaredResource r.body with
  | .error e => .error e
  | .ok resource =>
    match ((field? resource "name").or (r.query.get? "name")).filter (· != "") with
    | none => .error .missingObjectName
    | some objectName => .ok
      { bucket := ((field? resource "bucket").or (ObjectPath.bucket? r.path)).getD ""
        objectName
        contentType := (field? resource "contentType").or (r.header? .uploadType)
        createdAt := now }

def openingResponse [SessionStore σ] : Hook σ := fun _ o s x =>
  match x.response with
  | none => .success x s
  | some response =>
    if response.isSuccess then
      match uploadId? response with
      | none => .failure .missingUploadId x s
      | some id =>
        match declaredSession x.request o.now with
        | .error e => .failure e x s
        | .ok session =>
          match SessionStore.put o.toMoment id session s.sessions with
          | (.error e, sessions) => .failure (.ofSession e) x { s with sessions }
          | (.ok (), sessions) => .success x { s with sessions }
    else .success x s

def checkContentRange (header : Option String) (bodyLength : Nat) : Except ProxyError Unit :=
  match header with
  | none => .ok ()
  | some h =>
    let text := Text.trim h.toList
    if ContentRange.isWhole text bodyLength then .ok ()
    else .error (.unsupportedByteRange (String.ofList text))

/-- The upload id that a completion gives, once it is known to carry the whole object. -/
def completedId (r : Request) : Except ProxyError String :=
  match checkContentRange (r.header? .contentRange) r.body.length with
  | .error e => .error e
  | .ok () =>
    match (r.query.get? "upload_id").filter (· != "") with
    | none => .error .missingUploadId
    | some id => .ok id

def addressTo (session : Session) (r : Request) : Request :=
  { r with
    path := ObjectPath.uploadPath session.bucket
    query := (r.query.without ["upload_id", "uploadType", "name"]).set "name" session.objectName
    headers :=
      if (r.header? .contentType).getD "" = "" then
        match session.contentType with
        | some t => r.headers.set .contentType t
        | none => r.headers
      else r.headers }

/-- The request half of a completion. If sealing fails, the request is left as addressed to the
object. -/
def completionRequest [SessionStore σ] (c : Context) (o : Occasion) (s : State σ) (x : Exchange)
    (cipher : Cipher := CipherCache.encrypt) : Outcome σ :=
  match completedId x.request with
  | .error e => .failure e x s
  | .ok id =>
    match SessionStore.take o.toMoment id s.sessions with
    | (.error e, sessions) => .failure (.ofSession e) x { s with sessions }
    | (.ok session, sessions) =>
      let s := { s with sessions }
      match uploadKey c session.bucket (ObjectPath.bucket? x.request.path) with
      | .error e => .failure e x s
      | .ok keyId =>
        let addressed := addressTo session x.request
        match composeSealed c o s addressed session.bucket keyId cipher with
        | (.error e, s) => .failure e { x with request := addressed } s
        | (.ok request, s) => .success { x with request } s

end SealingProxy.Hooks

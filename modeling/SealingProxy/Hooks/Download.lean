import SealingProxy.Hooks.Basic
import SealingProxy.Hooks.Ranges
/-! # Downloads and resources

A sealed object opens as a whole only, so a range that the client asks for is held back and cut
from the plaintext. The headers that describe the content are stated anew. In the resource of an
object, the size and the digest of the plaintext stand in for those of the sealed object. -/

namespace SealingProxy.Hooks

variable {σ : Type}

def deferRange (r : Request) : Request :=
  match r.header? .range with
  | none => r
  | some range =>
    { r with headers :=
        ((r.headers.erase .range).erase .ifRange).set .stashedRange range }

def downloadRequest : Hook σ := fun _ _ s x =>
  .success { x with request := deferRange x.request } s

/-- The key that a download is opened with: the one recorded with the object, or else that of the
bucket. -/
def downloadKey? (c : Context) (r : Request) (response : Response) : Option String :=
  ((response.header? .storedKey).filter (· != "")).or
    ((ObjectPath.bucket? r.path).bind c.resolve)

/-- The response with a content in place of the sealed object. -/
def describe (response : Response) (content : Bytes) : Response :=
  let headers := (response.headers.set .storedLength (Decimal.text content.length)).set
    .storedHash ("md5=" ++ contentMd5 content)
  { response with headers }.setBody content

def deliver (range : Option String) (plaintext : Bytes) (response : Response) :
    Except ProxyError Response :=
  match range with
  | none =>
    .ok (describe { response with headers := response.headers.erase .contentRange } plaintext)
  | some header =>
    match ByteRange.parse? header plaintext.length with
    | none => .error (.invalidRange header)
    | some r =>
      let headers := response.headers.set .contentRange (r.contentRange plaintext.length)
      .ok (describe { response with status := 206, headers } (r.slice plaintext))

/-- The response half of a download. Without a key the content is passed on as it is stored. -/
def downloadResponse : Hook σ := fun c o s x =>
  match x.response with
  | none => .success x s
  | some response =>
    if response.isSuccess then
      match downloadKey? c x.request response with
      | none => .success x s
      | some keyId =>
        match s.decrypt c o keyId response.body with
        | (.error e, s) => .failure e x s
        | (.ok plaintext, s) =>
          match deliver (x.request.header? .stashedRange) plaintext response with
          | .error e => .failure e x s
          | .ok delivered => .success { x with response := some delivered } s
    else .success x s

/-- The request half of a fetch of a resource. A part of a resource may lack the sidecar, so that
the whole is asked for. -/
def resourceRequest : Hook σ := fun _ _ s x =>
  .success { x with request :=
    { x.request with query := (x.request.query.erase "fields").set "alt" "json" } } s

/-- The resource in a response, with the facts of the plaintext if it carries them. -/
def revealFacts (response : Response) : Except ProxyError Response :=
  match Resource.read response.body with
  | .error e => .error e
  | .ok resource =>
    match PlaintextFacts.ofResource? resource with
    | none => .ok response
    | some facts => .ok (response.setBody (Resource.write (facts.applyTo resource)))

def resourceResponse : Hook σ := fun _ _ s x =>
  match x.response with
  | none => .success x s
  | some response =>
    if response.isSuccess then
      match revealFacts response with
      | .error e => .failure e x s
      | .ok revealed => .success { x with response := some revealed } s
    else .success x s

end SealingProxy.Hooks

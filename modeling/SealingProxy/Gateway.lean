import SealingProxy.Engine
/-! # The gateway

Clients send to the gateway what they would send to the storage service. Each call becomes one
exchange: the request half, the forwarding, the response half, the reply. Headers that describe a
single connection are relayed in neither direction. The service is a function here, so that a whole
call is one value. -/

namespace SealingProxy

structure Call where
  method : String
  /-- The path and the query. -/
  target : String
  headers : Headers := {}
  body : Bytes := []
  deriving DecidableEq, Repr

def afterScheme : List Char → Option (List Char)
  | [] => none
  | c :: s => (Text.dropStart? "://".toList (c :: s)).or (afterScheme s)

/-- The path and the query that a client names. It may name a whole URL, of which the scheme and
the authority are left out; a fragment does not count. Dots and percent signs in the path have no
meaning here. -/
def pathAndQuery (named : String) : String :=
  match named.toList.takeWhile (· != '#') with
  | '/' :: s => String.ofList ('/' :: s)
  | ['*'] => "*"
  | s =>
    match ((afterScheme s).getD []).dropWhile fun c => c != '/' && c != '?' with
    | '/' :: s => String.ofList ('/' :: s)
    | s => String.ofList ('/' :: s)

def Call.ofTarget (method named : String) (headers : Headers) (body : Bytes) : Call :=
  { method, target := pathAndQuery named, headers, body }

/-- What the gateway sends to the storage service. -/
structure Forwarded where
  method : String
  url : String
  headers : Headers
  body : Bytes
  deriving DecidableEq, Repr

/-- The storage service: its response, or why there is none. -/
abbrev Service := Forwarded → Except String Response

structure Gateway where
  engine : Engine
  /-- The endpoint of the storage service, without slashes at its end. -/
  endpoint : String
  /-- The largest body of a call, in bytes. -/
  maxBody : Nat

namespace Gateway
open Text

variable {σ : Type} [SessionStore σ]

def ofEndpoint (engine : Engine) (endpoint : String) (maxBody : Nat) : Gateway :=
  { engine, endpoint := String.ofList (dropEndWhile (· == '/') endpoint.toList), maxBody }

/-- The name of the host in a URL, without the port, its letters small. -/
def hostOf (url : String) : String :=
  let authority := ((afterScheme url.toList).getD url.toList).takeWhile (· != '/')
  lower (Classifier.stripPort (String.ofList authority))

/-- Headers that describe a single connection, or the body as it is framed there. -/
def connectionHeaders : List HeaderName :=
  [⟨"connection"⟩, ⟨"keep-alive"⟩, ⟨"proxy-authenticate"⟩, ⟨"proxy-authorization"⟩, ⟨"te"⟩,
    ⟨"trailer"⟩, ⟨"transfer-encoding"⟩, ⟨"upgrade"⟩, .host, .contentLength]

def receive (g : Gateway) (call : Call) : Request :=
  { Request.ofTarget call.method (hostOf g.endpoint) call.target with
    headers := call.headers
    body := call.body }

/-- What is sent to the service for a request. The body has to come back as it is stored, so that
no other coding is accepted. -/
def forward (g : Gateway) (r : Request) : Forwarded :=
  { method := r.method
    url := g.endpoint ++ r.target
    headers := (r.forwardable.eraseAll connectionHeaders).erase .acceptEncoding
    body := r.body }

def origin? (call : Call) : Option String :=
  (call.headers.get? .host).map ("http://" ++ ·)

/-- Points a location at the service back at the gateway. -/
def redirectLocation (endpoint origin : String) (h : Headers) : Headers :=
  match (h.get? .location).bind fun l => dropStart? endpoint.toList l.toList with
  | none => h
  | some rest => h.set .location (origin ++ String.ofList rest)

/-- Statuses of responses that have no body and do not state its length. -/
def isBodiless (status : Nat) : Bool :=
  status == 204 || status == 304

def reply (r : Response) : Response :=
  let headers := r.headers.eraseAll connectionHeaders
  { r with headers :=
      if isBodiless r.status then headers
      else headers.insert .contentLength (utf8 (Decimal.text r.body.length)) }

def ownReply (status : Nat) (contentType body : String) : Response :=
  reply { status, headers := Headers.set {} .contentType contentType, body := utf8 body }

def failureReply (e : ProxyError) : Response :=
  ownReply e.status ProxyError.contentType e.toJson.text

def healthPath : String := "/_gcsproxy/health"

def health : Json :=
  .object [("status", .string "ok"), ("version", .string programVersion)]

/-- The reply to a call for the report. One to a call for the head alone has no body, yet its
headers stay. -/
def healthReply (method : String) : Response :=
  let full := ownReply 200 "application/json" health.text
  if method = "GET" then full
  else if method = "HEAD" then { full with body := [] }
  else reply { status := 405, headers := Headers.set {} ⟨"allow"⟩ "GET,HEAD" }

def tooLarge : Response :=
  ownReply 413 "text/plain; charset=utf-8"
    "Failed to buffer the request body: length limit exceeded"

/-- The location in the response to a call, pointed back at the gateway if the call names it. -/
def relocate (g : Gateway) (call : Call) (r : Response) : Response :=
  match origin? call with
  | none => r
  | some origin => { r with headers := redirectLocation g.endpoint origin r.headers }

def complete (g : Gateway) (o : Occasion) (call : Call) (s : State σ) (x : Exchange)
    (answer : Except String Response) : Response × State σ :=
  match answer with
  | .error reason => (failureReply (.badGateway reason), s)
  | .ok response =>
    let after := g.engine.onResponse o s { x with response := some response }
    match after.result, after.exchange.response with
    | .error e, _ => (failureReply e, after.state)
    | .ok (), none => (failureReply (.badGateway "no response"), after.state)
    | .ok (), some r => (reply (g.relocate call r), after.state)

/-- An exchange for a call. The two occasions are those of its halves. -/
def exchange (g : Gateway) (service : Service) (first second : Occasion) (s : State σ)
    (call : Call) : Response × State σ :=
  let before := g.engine.onRequest first s { request := g.receive call }
  match before.result with
  | .error e => (failureReply e, before.state)
  | .ok () =>
    g.complete second call before.state before.exchange
      (service (g.forward before.exchange.request))

def serve (g : Gateway) (service : Service) (first second : Occasion) (s : State σ)
    (call : Call) : Response × State σ :=
  if (g.receive call).path = healthPath then (healthReply call.method, s)
  else if g.maxBody < call.body.length then (tooLarge, s)
  else g.exchange service first second s call

end Gateway
end SealingProxy

import SealingProxy.Headers
import SealingProxy.Query
import SealingProxy.Decimal.Unsigned
/-! # Requests and responses

A request keeps the query text it was received with. As long as its parameters are those of that
text, the text itself is forwarded, octet for octet. -/

namespace SealingProxy

structure Request where
  method : String
  host : String
  path : String
  query : Query := {}
  headers : Headers := {}
  body : Bytes := []
  /-- The query text that was received. -/
  receivedQuery : Option String := none
  deriving DecidableEq, Repr

namespace Request

/-- A request without headers and body, its target cut at the first question mark. -/
def ofTarget (method host target : String) : Request :=
  match Text.cut '?' target.toList with
  | none => { method, host, path := target }
  | some (path, raw) =>
    { method, host, path := String.ofList path, query := Query.parse (String.ofList raw),
      receivedQuery := some (String.ofList raw) }

def header? (r : Request) (name : HeaderName) : Option String :=
  r.headers.get? name

/-- Replaces the body and states its length. -/
def setBody (r : Request) (body : Bytes) : Request :=
  { r with body, headers := r.headers.insert .contentLength (utf8 (Decimal.text body.length)) }

def writtenTarget (r : Request) : String :=
  if r.query.isEmpty then r.path else r.path ++ "?" ++ r.query.text

def target (r : Request) : String :=
  match r.receivedQuery with
  | some raw => if Query.parse raw = r.query then r.path ++ "?" ++ raw else r.writtenTarget
  | none => r.writtenTarget

/-- The headers that may be forwarded: all but the stashed ones. -/
def forwardable (r : Request) : Headers :=
  r.headers.eraseAll HeaderName.stash

end Request

structure Response where
  status : Nat
  headers : Headers := {}
  body : Bytes := []
  deriving DecidableEq, Repr

namespace Response

def header? (r : Response) (name : HeaderName) : Option String :=
  r.headers.get? name

/-- Replaces the body and states its length. -/
def setBody (r : Response) (body : Bytes) : Response :=
  { r with body, headers := r.headers.insert .contentLength (utf8 (Decimal.text body.length)) }

def isSuccess (r : Response) : Bool :=
  200 ≤ r.status && r.status < 300

end Response
end SealingProxy

import SealingProxy.Headers
import SealingProxy.Json.Printer
import SealingProxy.Multipart.Boundary
import SealingProxy.Sealing.KeyService
import SealingProxy.Session.Store
/-! # Failures of exchanges

A failure ends one exchange and nothing else. The client gets it as a response of the kind the
storage interface gives, so that its library shows the message. -/

namespace SealingProxy

inductive ProxyError where
  | unsupportedByteRange (header : String)
  | malformedMultipart (reason : String)
  | encryptionFailed (reason : String)
  | decryptionFailed (reason : String)
  | keyUnavailable (keyId reason : String)
  | missingUploadId
  | missingSession (id : String)
  | missingStash (name : HeaderName)
  | invalidStash (name : HeaderName) (value : String)
  | invalidJson (reason : String)
  | invalidRange (header : String)
  | missingObjectName
  | sessionStore (reason : String)
  | badGateway (reason : String)
  deriving DecidableEq, Repr

namespace ProxyError

def message : ProxyError → String
  | unsupportedByteRange h => "unsupported byte range for resumable upload: " ++ h
  | malformedMultipart r => "malformed multipart body: " ++ r
  | encryptionFailed r => "encryption failed: " ++ r
  | decryptionFailed r => "decryption failed: " ++ r
  | keyUnavailable k r => "encryption backend unavailable for key " ++ k ++ ": " ++ r
  | missingUploadId => "missing upload id"
  | missingSession id => "no resumable session data for upload id " ++ id
  | missingStash n =>
    "missing proxy header " ++ n.text ++ "; request was not transformed by this proxy"
  | invalidStash n v => "invalid proxy header " ++ n.text ++ ": " ++ v
  | invalidJson r => "invalid JSON body: " ++ r
  | invalidRange h => "invalid byte range: " ++ h
  | missingObjectName => "missing object name"
  | sessionStore r => "session store error: " ++ r
  | badGateway r => "upstream request failed: " ++ r

/-- The code by which clients tell failures apart. -/
def reason : ProxyError → String
  | unsupportedByteRange _ => "unsupportedByteRange"
  | malformedMultipart _ => "malformedMultipart"
  | encryptionFailed _ => "encryptionFailed"
  | decryptionFailed _ => "decryptionFailed"
  | keyUnavailable _ _ => "encryptionBackendUnavailable"
  | missingUploadId => "missingUploadId"
  | missingSession _ => "missingSessionData"
  | missingStash _ => "missingSidecarHeaders"
  | invalidStash _ _ => "invalidSidecarHeader"
  | invalidJson _ => "invalidJson"
  | invalidRange _ => "invalidRange"
  | missingObjectName => "required"
  | sessionStore _ => "sessionStore"
  | badGateway _ => "badGateway"

def status : ProxyError → Nat
  | unsupportedByteRange _ => 501
  | malformedMultipart _ => 400
  | encryptionFailed _ => 500
  | decryptionFailed _ => 500
  | keyUnavailable _ _ => 503
  | missingUploadId => 400
  | missingSession _ => 404
  | missingStash _ => 500
  | invalidStash _ _ => 500
  | invalidJson _ => 502
  | invalidRange _ => 416
  | missingObjectName => 400
  | sessionStore _ => 500
  | badGateway _ => 502

def toJson (e : ProxyError) : Json :=
  .object [("error", .object
    [("code", .number (JsonNumber.ofMagnitude false e.status)),
      ("message", .string e.message),
      ("errors", .array [.object
        [("domain", .string "gcsproxy"), ("reason", .string e.reason),
          ("message", .string e.message)]])])]

def contentType : String := "application/json; charset=UTF-8"

def ofCrypto : CryptoError → ProxyError
  | .encryptionFailed r => encryptionFailed r
  | .decryptionFailed r => decryptionFailed r
  | .backendUnavailable k r => keyUnavailable k r
  | .invalidKeyMaterial r => keyUnavailable "" r

def ofMultipart (e : MultipartError) : ProxyError :=
  malformedMultipart e.message

def ofSession : SessionError → ProxyError
  | .notFound id => missingSession id
  | e => sessionStore e.message

end ProxyError
end SealingProxy

import SealingProxy.Crypto.Md5
import SealingProxy.Decimal.Unsigned
import SealingProxy.Json.Basic
import SealingProxy.Text.Base64
import SealingProxy.Text.Blank
/-! # What is recorded of a plaintext

The storage service sees sealed objects only, and so reports their sizes and digests. What the
client should see instead travels with each object as custom metadata of its resource: the sidecar.
The facts read back from it replace the size and the digest of the resource; the checksum of the
sealed object is dropped. -/

namespace SealingProxy

/-- The digest of a content as resources state it. -/
def contentMd5 (content : Bytes) : String :=
  String.ofList (Text.Base64.encode (Md5.digest content))

/-- What is recorded of an object that was sealed. -/
structure Sidecar where
  length : Nat
  md5 : String
  keyId : String
  version : String
  deriving DecidableEq, Repr

namespace Sidecar

def metadataName : String := "metadata"
def lengthName : String := "x-unencrypted-content-length"
def md5Name : String := "x-md5Hash"
def keyName : String := "x-encryption-key"
def versionName : String := "x-proxy-version"

def ofPlaintext (plaintext : Bytes) (keyId version : String) : Sidecar :=
  { length := plaintext.length, md5 := contentMd5 plaintext, keyId, version }

/-- The custom metadata of a resource. Anything but an object counts as none. -/
def custom (r : Resource) : Fields Json :=
  match Fields.get? r metadataName with
  | some (.object c) => c
  | _ => []

def members (s : Sidecar) : List (String × String) :=
  [(lengthName, Decimal.text s.length), (md5Name, s.md5), (keyName, s.keyId),
    (versionName, s.version)]

def addTo (s : Sidecar) (c : Fields Json) : Fields Json :=
  s.members.foldl (fun c m => Fields.insert c m.1 (.string m.2)) c

def writeInto (s : Sidecar) (r : Resource) : Resource :=
  Fields.insert r metadataName (.object (s.addTo (custom r)))

end Sidecar

structure PlaintextFacts where
  size : Nat
  md5 : String
  deriving DecidableEq, Repr

namespace PlaintextFacts

/-- A size, written as a string or as a number. -/
def readSize? : Json → Option Nat
  | .string s => Decimal.read? (Text.trim s.toList)
  | v => v.natural?

def ofResource? (r : Resource) : Option PlaintextFacts :=
  match Fields.get? r Sidecar.metadataName with
  | some (.object custom) =>
    match (Fields.get? custom Sidecar.lengthName).bind readSize?,
        (Fields.get? custom Sidecar.md5Name).bind Json.string? with
    | some size, some md5 => some ⟨size, md5⟩
    | _, _ => none
  | _ => none

def applyTo (f : PlaintextFacts) (r : Resource) : Resource :=
  Fields.swapErase (Fields.insert (Fields.insert r "size" (.string (Decimal.text f.size)))
    "md5Hash" (.string f.md5)) "crc32c"

end PlaintextFacts
end SealingProxy

import SealingProxy.Text.Ascii
import SealingProxy.Text.Utf8
/-! # Header fields

A header map holds named values. Names are tokens whose letters are small; a name may have several
values, whose order counts. Values are octets other than controls. Only values of visible ASCII
can be read as text: the others count as absent for whoever asks, yet they are relayed. -/

namespace SealingProxy

/-- The name of a header field, its letters small. -/
structure HeaderName where
  text : String
  deriving DecidableEq, Repr

namespace HeaderName
open Text

def marks : List Char :=
  "!#$%&'*+-.^_\x60|~".toList

def isNameChar (c : Char) : Bool :=
  c.isAlphanum || marks.contains c

/-- The name written by a text, if it is a token. -/
def ofText? (s : String) : Option HeaderName :=
  if !s.toList.isEmpty && s.toList.all isNameChar then some ⟨lower s⟩ else none

def accept : HeaderName := ⟨"accept"⟩
def acceptEncoding : HeaderName := ⟨"accept-encoding"⟩
def contentLength : HeaderName := ⟨"content-length"⟩
def contentMd5 : HeaderName := ⟨"content-md5"⟩
def contentRange : HeaderName := ⟨"content-range"⟩
def contentType : HeaderName := ⟨"content-type"⟩
def expect : HeaderName := ⟨"expect"⟩
def host : HeaderName := ⟨"host"⟩
def ifRange : HeaderName := ⟨"if-range"⟩
def location : HeaderName := ⟨"location"⟩
def range : HeaderName := ⟨"range"⟩

def storedHash : HeaderName := ⟨"x-goog-hash"⟩
def storedLength : HeaderName := ⟨"x-goog-stored-content-length"⟩
/-- Holds the key recorded with an object in responses to downloads. -/
def storedKey : HeaderName := ⟨"x-goog-meta-x-encryption-key"⟩
def uploadId : HeaderName := ⟨"x-guploader-uploadid"⟩
def uploadLength : HeaderName := ⟨"x-upload-content-length"⟩
def uploadType : HeaderName := ⟨"x-upload-content-type"⟩

def stashedBodyLength : HeaderName := ⟨"x-gcsproxy-original-content-length"⟩
def stashedSize : HeaderName := ⟨"x-gcsproxy-unencrypted-file-size"⟩
def stashedMd5 : HeaderName := ⟨"x-gcsproxy-original-md5-hash"⟩
def stashedRange : HeaderName := ⟨"x-gcsproxy-original-byte-range"⟩

/-- The names under which the request half of an exchange leaves facts for the response half.
They are never forwarded. -/
def stash : List HeaderName :=
  [stashedBodyLength, stashedSize, stashedMd5, stashedRange]

def isStash (n : HeaderName) : Bool :=
  stash.contains n

end HeaderName

/-- Named values. Values of one name stand in the order in which they were added. -/
structure Headers where
  entries : List (HeaderName × Bytes) := []
  deriving DecidableEq, Repr

namespace Headers
open Text

/-- An octet that values may hold: a tab, or anything that is no control. -/
def isValueByte (b : UInt8) : Bool :=
  b == 9 || (32 ≤ b && b != 127)

/-- An octet of visible ASCII, or a tab. -/
def isVisibleByte (b : UInt8) : Bool :=
  b == 9 || (32 ≤ b && b < 127)

def values (h : Headers) (name : HeaderName) : List Bytes :=
  (h.entries.filter (·.1 == name)).map (·.2)

/-- The first value of a name, if it can be read as text. -/
def get? (h : Headers) (name : HeaderName) : Option String :=
  match h.values name with
  | v :: _ => if v.all isVisibleByte then some (ofAscii v) else none
  | [] => none

def erase (h : Headers) (name : HeaderName) : Headers :=
  ⟨h.entries.filter (·.1 != name)⟩

def eraseAll (h : Headers) (names : List HeaderName) : Headers :=
  ⟨h.entries.filter fun e => !names.contains e.1⟩

def append (h : Headers) (name : HeaderName) (value : Bytes) : Headers :=
  ⟨h.entries ++ [(name, value)]⟩

/-- Gives a name one value in place of those it has. -/
def insert (h : Headers) (name : HeaderName) (value : Bytes) : Headers :=
  (h.erase name).append name value

/-- Gives a name one value, unless the text holds a control character. -/
def set (h : Headers) (name : HeaderName) (value : String) : Headers :=
  if (utf8 value).all isValueByte then h.insert name (utf8 value) else h

end Headers
end SealingProxy

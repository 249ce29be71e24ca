import SealingProxy.Text.Percent
import SealingProxy.Text.Split
/-! # Query parameters

A query is a list of named values in the order received, written as a form: pairs joined by `&`,
name and value joined by `=`, a space as `+`, other octets escaped. Reading accepts more than
writing produces: empty pairs are skipped, a missing `=` means an empty value, and octets that are
not UTF-8 are replaced. -/

namespace SealingProxy

/-- Named values in order. A name may occur several times. -/
structure Query where
  params : List (String × String) := []
  deriving DecidableEq, Repr

namespace Query
open Text

/-- Letters, digits and the marks that stand for themselves in a form. -/
def isFormByte (b : UInt8) : Bool :=
  isAlphanum b || b == 42 || b == 45 || b == 46 || b == 95

def encodeField (s : String) : String :=
  ofAscii ((Percent.escape (fun b => isFormByte b || b == 32) (utf8 s)).map
    fun b => if b = 32 then 43 else b)

def decodeField (s : Bytes) : String :=
  String.ofList (Utf8.decodeLossy (Percent.unescape (s.map fun b => if b = 43 then 32 else b)))

def readPair (s : Bytes) : String × String :=
  match cut 61 s with
  | none => (decodeField s, "")
  | some (name, value) => (decodeField name, decodeField value)

def parse (raw : String) : Query :=
  ⟨((pieces 38 (utf8 raw)).filter (!·.isEmpty)).map readPair⟩

def writePair (p : String × String) : String :=
  encodeField p.1 ++ "=" ++ encodeField p.2

def text (q : Query) : String :=
  "&".intercalate (q.params.map writePair)

def get? (q : Query) (name : String) : Option String :=
  (q.params.find? (·.1 == name)).map (·.2)

def contains (q : Query) (name : String) : Bool :=
  q.params.any (·.1 == name)

def erase (q : Query) (name : String) : Query :=
  ⟨q.params.filter (·.1 != name)⟩

/-- Gives a name one value, at the place of its first occurrence or else at the end. -/
def set (q : Query) (name value : String) : Query :=
  match q.params.dropWhile (·.1 != name) with
  | [] => ⟨q.params ++ [(name, value)]⟩
  | _ :: rest => ⟨q.params.takeWhile (·.1 != name) ++ (name, value) :: rest.filter (·.1 != name)⟩

def isEmpty (q : Query) : Bool :=
  q.params.isEmpty

def without (q : Query) (names : List String) : Query :=
  ⟨q.params.filter fun p => !names.contains p.1⟩

end Query
end SealingProxy

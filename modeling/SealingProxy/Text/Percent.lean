import SealingProxy.Text.Ascii
import SealingProxy.Text.Utf8
/-! # Percent escapes

An escape is a percent sign and two hexadecimal digits. Reading keeps a percent sign that starts
no escape. Writing escapes every octet outside a set of plain ones; the set is a parameter, since
paths and forms choose differently. -/

namespace SealingProxy.Text.Percent

def sign : UInt8 := 37

def unescape : Bytes → Bytes
  | [] => []
  | [a] => [a]
  | [a, b] => [a, b]
  | a :: b :: c :: s =>
    if a = sign then
      match hexValue? b, hexValue? c with
      | some h, some l => (h * 16 + l) :: unescape s
      | _, _ => a :: unescape (b :: c :: s)
    else a :: unescape (b :: c :: s)

def escapeByte (b : UInt8) : Bytes :=
  [sign, capitalHexDigit (b / 16), capitalHexDigit (b % 16)]

def escape (plain : UInt8 → Bool) (s : Bytes) : Bytes :=
  s.flatMap fun b => if plain b then [b] else escapeByte b

/-- Letters, digits and the four marks that stand for themselves in a path segment. -/
def isPathByte (b : UInt8) : Bool :=
  isAlphanum b || b == 45 || b == 46 || b == 95 || b == 126

def encodeSegment (s : String) : String :=
  ofAscii (escape isPathByte (utf8 s))

/-- The name that a segment of a path stands for. A segment whose escapes do not make up UTF-8
stands for itself. -/
def decodeSegment (s : String) : String :=
  match Utf8.decode? (unescape (utf8 s)) with
  | some t => String.ofList t
  | none => s

end SealingProxy.Text.Percent

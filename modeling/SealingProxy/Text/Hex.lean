import SealingProxy.Text.Ascii
import SealingProxy.Text.Quoted
import SealingProxy.Text.Utf8
/-! # Hexadecimal octets

Each octet is written as two digits. Capital digits are read as well but not written. -/

namespace SealingProxy.Text.Hex

inductive Fault where
  | oddLength
  | badDigit (octet : UInt8) (index : Nat)
  deriving DecidableEq, Repr

def Fault.message : Fault → String
  | oddLength => "Odd number of digits"
  | badDigit b i =>
    "Invalid character " ++ Quoted.char (charOfByte b) ++ " at position " ++ toString i

def encode (s : Bytes) : String :=
  ofAscii (s.flatMap fun b => [smallHexDigit (b / 16), smallHexDigit (b % 16)])

/-- Reads pairs of digits, the first of which stands at the given index. -/
def decodePairs (index : Nat) : Bytes → Except Fault Bytes
  | [] => .ok []
  | [_] => .error .oddLength
  | a :: b :: s =>
    match hexValue? a, hexValue? b with
    | none, _ => .error (.badDigit a index)
    | some _, none => .error (.badDigit b (index + 1))
    | some h, some l =>
      match decodePairs (index + 2) s with
      | .ok r => .ok ((h * 16 + l) :: r)
      | .error e => .error e

/-- Reads octets. An odd number of digits is told before anything else. -/
def decode (s : String) : Except Fault Bytes :=
  if (utf8 s).length % 2 = 1 then .error .oddLength else decodePairs 0 (utf8 s)

end SealingProxy.Text.Hex

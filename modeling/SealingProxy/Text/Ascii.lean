import SealingProxy.Bytes
/-! # ASCII letters and digits

Names of hosts, headers and media types ignore the case of ASCII letters and of no others. -/

namespace SealingProxy.Text

def lower (s : String) : String :=
  String.ofList (s.toList.map Char.toLower)

/-- The two texts agree up to the case of ASCII letters. -/
def sameLetters (s t : String) : Bool :=
  lower s == lower t

/-- An ASCII letter or digit, as an octet. -/
def isAlphanum (b : UInt8) : Bool :=
  (48 ≤ b && b ≤ 57) || (65 ≤ b && b ≤ 90) || (97 ≤ b && b ≤ 122)

def hexValue? (b : UInt8) : Option UInt8 :=
  if 48 ≤ b && b ≤ 57 then some (b - 48)
  else if 65 ≤ b && b ≤ 70 then some (b - 55)
  else if 97 ≤ b && b ≤ 102 then some (b - 87)
  else none

def hexDigit? (c : Char) : Option Nat :=
  if '0' ≤ c ∧ c ≤ '9' then some (c.toNat - 48)
  else if 'a' ≤ c ∧ c ≤ 'f' then some (c.toNat - 87)
  else if 'A' ≤ c ∧ c ≤ 'F' then some (c.toNat - 55)
  else none

def capitalHexDigit (v : UInt8) : UInt8 :=
  if v < 10 then v + 48 else v + 55

def smallHexDigit (v : UInt8) : UInt8 :=
  if v < 10 then v + 48 else v + 87

def charOfByte (b : UInt8) : Char :=
  Char.ofNat b.toNat

def ofAscii (b : Bytes) : String :=
  String.ofList (b.map charOfByte)

end SealingProxy.Text

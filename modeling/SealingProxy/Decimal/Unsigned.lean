import SealingProxy.Text.Split
/-! # Unsigned decimals

Lengths and positions in headers, resources and settings are decimals of 64 bits: an optional plus
sign, then one or more ASCII digits, with a value below `2 ^ 64`. They are written without a sign
and without leading zeros. -/

namespace SealingProxy.Decimal

def digitValue (c : Char) : Nat :=
  c.toNat - '0'.toNat

def ofDigits (s : List Char) : Nat :=
  s.foldl (fun n c => n * 10 + digitValue c) 0

/-- One or more ASCII digits. -/
def isDigits (s : List Char) : Bool :=
  !s.isEmpty && s.all Char.isDigit

/-- The digits of a decimal, its plus sign taken off. -/
def unsigned : List Char → List Char
  | '+' :: s => s
  | s => s

/-- A sign, true for minus, and what follows it. -/
def takeSign : List Char → Bool × List Char
  | '+' :: s => (false, s)
  | '-' :: s => (true, s)
  | s => (false, s)

theorem length_takeSign_le (s : List Char) : (takeSign s).2.length ≤ s.length := by
  unfold takeSign
  split
  · exact Nat.le_succ _
  · exact Nat.le_succ _
  · exact Nat.le_refl _

/-- The value of a 64-bit decimal. -/
def read? (s : List Char) : Option Nat :=
  let ds := unsigned s
  if isDigits ds ∧ ofDigits ds < UInt64.size then some (ofDigits ds) else none

def write (n : Nat) : List Char :=
  Nat.toDigits 10 n

def text (n : Nat) : String :=
  String.ofList (write n)

end SealingProxy.Decimal

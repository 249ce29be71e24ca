/-! # Code points

Classes of characters are given by the ranges of their code points, in ascending order. -/

namespace SealingProxy.Text

def charOf? (n : Nat) : Option Char :=
  if h : n.isValidChar then some (Char.ofNatAux n h) else none

/-- The code point of the character lies in one of the ranges, both ends included. -/
def isIn (ranges : List (Nat × Nat)) (c : Char) : Bool :=
  ranges.any fun r => r.1 ≤ c.toNat && c.toNat ≤ r.2

end SealingProxy.Text

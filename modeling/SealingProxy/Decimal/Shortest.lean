/-! # The shortest decimal of a double

A positive double stands for all reals that round to it: those between the midpoints to its
neighbours, the midpoints themselves if its significand is even. The shortest decimal is the one
with the fewest digits among them. Of two with the same number of digits the nearer one is taken,
and of two equally near ones the even one. All arithmetic is on natural numbers. -/

namespace SealingProxy.Decimal

/-- The reals that round to a double, as fractions with one denominator. -/
structure Rounding where
  low : Nat
  value : Nat
  high : Nat
  denominator : Nat
  closed : Bool

def Rounding.ofBits (bits : UInt64) : Rounding :=
  let fraction := bits.toNat % Nat.pow 2 52
  let exponent := bits.toNat / Nat.pow 2 52 % Nat.pow 2 11
  let m := if exponent = 0 then fraction else fraction + Nat.pow 2 52
  let e := if exponent = 0 then 1 else exponent
  let up := Nat.pow 2 (e - 1075)
  let below := if fraction = 0 ∧ 1 < exponent then 1 else 2
  { low := (4 * m - below) * up
    value := 4 * m * up
    high := (4 * m + 2) * up
    denominator := 4 * Nat.pow 2 (1075 - e)
    closed := m % 2 = 0 }

/-- A decimal: its digits as one number, and the power of ten of the last digit. -/
structure Scaled where
  digits : Nat
  exponent : Int
  deriving DecidableEq, Repr

/-- The exponent of the first digit of `n / d`. -/
def leadingExponent (n d : Nat) : Int :=
  if d ≤ n then (Nat.toDigits 10 (n / d)).length - 1
  else
    let k := (Nat.toDigits 10 (d / n)).length - 1
    if n * Nat.pow 10 k = d then -k else -(k + 1)

/-- The number of units `10 ^ u` in `n / d`, as a fraction. -/
def inUnits (n d : Nat) (u : Int) : Nat × Nat :=
  if 0 ≤ u then (n, d * Nat.pow 10 u.toNat) else (n * Nat.pow 10 (-u).toNat, d)

/-- The grid point `c` of unit `10 ^ u` rounds to the double. -/
def Rounding.admits (r : Rounding) (u : Int) (c : Nat) : Bool :=
  let low := inUnits r.low r.denominator u
  let high := inUnits r.high r.denominator u
  if r.closed then low.1 ≤ c * low.2 && c * high.2 ≤ high.1
  else low.1 < c * low.2 && c * high.2 < high.1

/-- The grid point of unit `10 ^ u` that rounds to the double, the nearer one if there are two. -/
def Rounding.pick? (r : Rounding) (u : Int) : Option Scaled :=
  let v := inUnits r.value r.denominator u
  let c := v.1 / v.2
  let twice := 2 * (v.1 % v.2)
  let nearer := if twice < v.2 ∨ (twice = v.2 ∧ c % 2 = 0) then c else c + 1
  let farther := if nearer = c then c + 1 else c
  if r.admits u nearer then some ⟨nearer, u⟩
  else if r.admits u farther then some ⟨farther, u⟩
  else none

/-- The shortest decimal that rounds to a positive finite double. Seventeen digits always do. -/
def shortest (bits : UInt64) : Scaled :=
  let r := Rounding.ofBits bits
  let top := leadingExponent r.value r.denominator
  ((List.range 17).findSome? fun (n : Nat) => r.pick? (top - n)).getD ⟨0, 0⟩

end SealingProxy.Decimal

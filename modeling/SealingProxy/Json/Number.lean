import SealingProxy.Json.Basic
import SealingProxy.Decimal.Shortest
import SealingProxy.Decimal.Unsigned
/-! # Numbers of JSON texts

A number is read from a sign, whole digits, decimals and an exponent. Digits are collected into a
significand of 64 bits. A digit that would overflow it ends the collecting: whole digits from there
on only raise the exponent, decimals are left out. A double is the significand as a double, once
multiplied or divided by a power of ten.

Doubles are written by their shortest decimal, with a point from `1e-5` up to `1e16`, and with an
exponent outside of that. -/

namespace SealingProxy.JsonNumber

structure Written where
  negative : Bool
  whole : List Char
  decimals : List Char
  exponent : Option Int
  deriving DecidableEq, Repr

/-- Collects digits until the significand would overflow, and counts those collected. -/
def collect (significand : Nat) : List Char → Nat × Nat
  | [] => (significand, 0)
  | c :: s =>
    let next := significand * 10 + Decimal.digitValue c
    if next < UInt64.size then
      let r := collect next s
      (r.1, r.2 + 1)
    else (significand, 0)

def powerOfTen (n : Nat) : Float :=
  Float.ofScientific 1 false n

/-- Divides by a power of ten, in steps of at most 308. -/
def divide (x : Float) (n : Nat) : Float :=
  if n ≤ 308 then x / powerOfTen n
  else if x == 0 then x
  else divide (x / powerOfTen 308) (n - 308)
termination_by n

/-- A significand times a power of ten, unless that is too large for a double. -/
def scale? (significand : Nat) (exponent : Int) : Option Float :=
  let x := significand.toUInt64.toFloat
  if exponent < 0 then some (divide x (-exponent).toNat)
  else if 308 < exponent then (if x == 0 then some x else none)
  else
    let y := x * powerOfTen exponent.toNat
    if y.isInf then none else some y

/-- The whole number of a sign and a magnitude, a double if it does not fit. Zero with a minus
sign is a double. -/
def ofMagnitude (negative : Bool) (n : Nat) : JsonNumber :=
  if negative then
    if h : 0 < n ∧ n ≤ 9223372036854775808 then .whole (-n) (by omega)
    else .double (-n.toUInt64.toFloat)
  else if h : n < 18446744073709551616 then .whole n (by omega) else .double n.toUInt64.toFloat

def ofWritten? (w : Written) : Option JsonNumber :=
  let whole := collect 0 w.whole
  let left := w.whole.length - whole.2
  if left = 0 ∧ w.decimals.isEmpty ∧ w.exponent.isNone then
    some (ofMagnitude w.negative whole.1)
  else
    let all := collect whole.1 w.decimals
    (scale? all.1 (left - all.2 + w.exponent.getD 0)).map
      fun x => .double (if w.negative then -x else x)

/-- The text of a decimal whose first digit has the exponent `top`. -/
def layOut (digits : List Char) (top : Int) : List Char :=
  if 0 ≤ top ∧ top < 16 then
    let before := top.toNat + 1
    let whole := digits.take before ++ List.replicate (before - digits.length) '0'
    let rest := digits.drop before
    whole ++ '.' :: (if rest.isEmpty then ['0'] else rest)
  else if -5 ≤ top ∧ top < 0 then
    '0' :: '.' :: (List.replicate ((-top).toNat - 1) '0' ++ digits)
  else
    let mantissa := match digits with
      | [] => []
      | [d] => [d]
      | d :: ds => d :: '.' :: ds
    mantissa ++ 'e' :: (if top < 0 then '-' else '+') :: Decimal.write top.natAbs

def dropZeros (digits : List Char) : List Char :=
  (digits.reverse.dropWhile (· == '0')).reverse

/-- The text of a finite double that is not negative. -/
def magnitudeText (x : Float) : List Char :=
  if x == 0 then ['0', '.', '0']
  else
    let s := Decimal.shortest x.toBits
    let digits := Decimal.write s.digits
    layOut (dropZeros digits) (s.exponent + (digits.length - 1))

def text : JsonNumber → List Char
  | whole n _ => if n < 0 then '-' :: Decimal.write n.natAbs else Decimal.write n.natAbs
  | double x =>
    if x.toBits &&& 0x8000000000000000 != 0 then '-' :: magnitudeText (-x) else magnitudeText x

end SealingProxy.JsonNumber

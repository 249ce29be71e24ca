import SealingProxy.Text.Blank
import SealingProxy.Decimal.Unsigned
/-! # Spans of time

A span is written as numbers with units, such as `1day 2h` or `1.5h`; a zero may stand alone. Its
value is a whole number of nanoseconds. A fraction needs digits on both sides of the point. It
must come out in whole nanoseconds, or in whole seconds for hours and all longer units; a fraction
of a nanosecond is refused even when it is zero. Months and years have their mean length. -/

namespace SealingProxy.Span
open Text

def second : Nat := 1000000000

/-- The units of a span: those below a second in nanoseconds, the others in seconds. -/
inductive Size where
  | nanoseconds (n : Nat)
  | seconds (n : Nat)
  deriving DecidableEq, Repr

def unit? (name : String) : Option Size :=
  if ["ns", "nsec", "nanos"].contains name then some (.nanoseconds 1)
  else if ["us", "usec", "µs"].contains name then some (.nanoseconds 1000)
  else if ["ms", "msec", "millis"].contains name then some (.nanoseconds 1000000)
  else if ["s", "sec", "secs", "second", "seconds"].contains name then some (.seconds 1)
  else if ["m", "min", "mins", "minute", "minutes"].contains name then some (.seconds 60)
  else if ["h", "hr", "hrs", "hour", "hours"].contains name then some (.seconds 3600)
  else if ["d", "day", "days"].contains name then some (.seconds 86400)
  else if ["w", "wk", "wks", "week", "weeks"].contains name then some (.seconds 604800)
  else if ["M", "month", "months"].contains name then some (.seconds 2630016)
  else if ["y", "yr", "yrs", "year", "years"].contains name then some (.seconds 31557600)
  else none

def isUnitChar (c : Char) : Bool :=
  c.isAlpha || c == 'µ'

/-- The grain in which a decimal fraction of a unit is counted: nanoseconds up to a minute, whole
seconds from an hour on. A nanosecond has no fractions. -/
def Size.fractionGrain? : Size → Option Size
  | .nanoseconds n => if n = 1 then none else some (.nanoseconds n)
  | .seconds n => some (if n < 3600 then .nanoseconds (n * second) else .seconds n)

/-- Adds a number of units to a span. Neither the number nor the sum may overflow 64 bits. -/
def addUnits? (total n : Nat) : Size → Option Nat
  | .nanoseconds m =>
    if n * m < UInt64.size ∧ total % second + n * m < UInt64.size then some (total + n * m)
    else none
  | .seconds m => if n * m < UInt64.size then some (total + n * m * second) else none

/-- Adds `n / scale` of a unit to a span. The product before the division may not overflow, and
the quotient must be whole. -/
def addParts? (total n scale : Nat) : Size → Option Nat
  | .nanoseconds m =>
    if n * m < UInt64.size ∧ n * m % scale = 0 then addUnits? total (n * m / scale) (.nanoseconds 1)
    else none
  | .seconds m =>
    if n * m < UInt64.size ∧ n * m % scale = 0 then addUnits? total (n * m / scale) (.seconds 1)
    else none

def addFraction? (total : Nat) (size : Size) (digits : List Char) : Option Nat := do
  let grain ← size.fractionGrain?
  let scale := Nat.pow 10 digits.length
  if digits.isEmpty ∨ UInt64.size ≤ scale then none
  else addParts? total (Decimal.ofDigits digits) scale grain

structure Item where
  whole : List Char
  decimals : Option (List Char)
  unit : List Char

def addItem? (total : Nat) (item : Item) : Option Nat := do
  let n := Decimal.ofDigits item.whole
  let size ← unit? (String.ofList item.unit)
  let sum ← if n < UInt64.size then addUnits? total n size else none
  let sum ← match item.decimals with
    | none => some sum
    | some ds => addFraction? sum size ds
  if sum / second < UInt64.size then some sum else none

/-- A character of a number: a digit, or a blank among the digits. -/
def isNumberChar (c : Char) : Bool :=
  c.isDigit || isBlank c

def takeNumber (s : List Char) : List Char × List Char :=
  ((s.takeWhile isNumberChar).filter Char.isDigit, s.dropWhile isNumberChar)

/-- The decimals at the start of a text, if it starts with a point, and what follows them. -/
def takeDecimals : List Char → Option (List Char) × List Char
  | '.' :: s => (some (takeNumber s).1, (takeNumber s).2)
  | s => (none, s)

def takeItem (s : List Char) : Item × List Char :=
  let whole := takeNumber s
  let decimals := takeDecimals whole.2
  (⟨whole.1, decimals.1, decimals.2.takeWhile isUnitChar⟩, decimals.2.dropWhile isUnitChar)

theorem length_takeDecimals_le (s : List Char) : (takeDecimals s).2.length ≤ s.length := by
  unfold takeDecimals
  split
  · exact Nat.le_succ_of_le (List.dropWhile_suffix _).length_le
  · exact Nat.le_refl _

theorem length_takeItem_lt {c : Char} {s : List Char} (h : c.isDigit) :
    (takeItem (c :: s)).2.length < (c :: s).length := by
  have h₁ : (takeNumber (c :: s)).2 = s.dropWhile isNumberChar := by
    simp [takeNumber, isNumberChar, h]
  refine Nat.lt_of_le_of_lt (List.dropWhile_suffix _).length_le ?_
  refine Nat.lt_of_le_of_lt (length_takeDecimals_le _) ?_
  rw [h₁]
  exact Nat.lt_succ_of_le (List.dropWhile_suffix _).length_le

def readFrom? (total : Nat) (s : List Char) : Option Nat :=
  match _h : trimStart s with
  | [] => some total
  | c :: t =>
    if _hc : c.isDigit then
      match addItem? total (takeItem (c :: t)).1 with
      | none => none
      | some sum => readFrom? sum (takeItem (c :: t)).2
    else none
termination_by s.length
decreasing_by
  have h₁ := length_takeItem_lt (s := t) _hc
  have h₂ := (s.dropWhile_suffix isBlank).length_le
  rw [trimStart] at _h
  rw [_h] at h₂
  omega

def read? (s : String) : Option Nat :=
  if s = "0" then some 0
  else if (trimStart s.toList).isEmpty then none
  else readFrom? 0 s.toList

end SealingProxy.Span

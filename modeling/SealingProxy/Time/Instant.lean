import SealingProxy.Text.Blank
import SealingProxy.Text.Split
import SealingProxy.Decimal.Unsigned
/-! # Instants

An instant is written as a date and a time of day in the Gregorian calendar, such as
`2000-01-01T00:00:00Z`. Writing uses universal time and as many decimals of the second as needed:
none, three, six or nine. Reading converts other offsets, allows blanks between the fields, and
accepts a second number sixty, which is kept as a second with more than a thousand million
nanoseconds. -/

namespace SealingProxy

/-- Seconds since the start of 1970, and nanoseconds. -/
structure Instant where
  seconds : Int
  nanoseconds : Nat := 0
  deriving DecidableEq, Repr

namespace Instant
open Text

/-- Nanoseconds since the start of 1970. -/
def ticks (t : Instant) : Int :=
  t.seconds * 1000000000 + t.nanoseconds

def isLeapSecond (t : Instant) : Bool :=
  1000000000 ≤ t.nanoseconds

/-- A second number sixty counts as the one before it. -/
def secondOfDay (t : Instant) : Int :=
  t.seconds % 86400

/-- The nanoseconds from one instant to another. A second number sixty is one more second in
between when the other end lies beyond it by the time of day, whatever the days are. -/
def since (t start : Instant) : Int :=
  let counted :=
    if start.isLeapSecond && start.secondOfDay < t.secondOfDay then 1
    else if t.isLeapSecond && t.secondOfDay < start.secondOfDay then -1
    else 0
  t.ticks - start.ticks + counted * 1000000000

structure Date where
  year : Int
  month : Nat
  day : Nat
  deriving DecidableEq, Repr

/-- Days from the start of March of year zero to the first of a month of a year that starts with
March. -/
def daysBeforeMonth (month : Nat) : Nat :=
  (153 * month + 2) / 5

/-- Days from the start of 1970 to a date. Years are counted from March, so that the leap day is
the last day of a year, and four hundred years are a whole cycle. -/
def Date.toDays (d : Date) : Int :=
  let year := if d.month ≤ 2 then d.year - 1 else d.year
  let month := (d.month + 9) % 12
  let ofCycle := year % 400
  let days := 365 * ofCycle + ofCycle / 4 - ofCycle / 100 + daysBeforeMonth month + d.day - 1
  year / 400 * 146097 + days - 719468

def Date.ofDays (days : Int) : Date :=
  let z := days + 719468
  let ofCycle := z % 146097
  let yearOfCycle := (ofCycle - ofCycle / 1460 + ofCycle / 36524 - ofCycle / 146096) / 365
  let ofYear :=
    (ofCycle - (365 * yearOfCycle + yearOfCycle / 4 - yearOfCycle / 100)).toNat
  let month := (5 * ofYear + 2) / 153
  let year := z / 146097 * 400 + yearOfCycle
  { year := if month < 10 then year else year + 1
    month := if month < 10 then month + 3 else month - 9
    day := ofYear - daysBeforeMonth month + 1 }

def isLeap (year : Int) : Bool :=
  year % 4 = 0 && (year % 100 != 0 || year % 400 = 0)

def daysInMonth (year : Int) (month : Nat) : Nat :=
  if month = 2 then (if isLeap year then 29 else 28)
  else if [4, 6, 9, 11].contains month then 30 else 31

def isCovered (year : Int) : Bool :=
  -262143 ≤ year && year ≤ 262142

def Date.isValid (d : Date) : Bool :=
  isCovered d.year && 1 ≤ d.month && d.month ≤ 12 && 1 ≤ d.day &&
    d.day ≤ daysInMonth d.year d.month

def padded (width n : Nat) : List Char :=
  let ds := Decimal.write n
  List.replicate (width - ds.length) '0' ++ ds

/-- The year. Outside of four digits it has a sign. -/
def writeYear (year : Int) : List Char :=
  if 0 ≤ year ∧ year ≤ 9999 then padded 4 year.toNat
  else (if year < 0 then '-' else '+') :: padded 4 year.natAbs

def writeFraction (n : Nat) : List Char :=
  if n = 0 then []
  else if n % 1000000 = 0 then '.' :: padded 3 (n / 1000000)
  else if n % 1000 = 0 then '.' :: padded 6 (n / 1000)
  else '.' :: padded 9 n

def text (t : Instant) : String :=
  let d := Date.ofDays (t.seconds / 86400)
  let ofDay := (t.seconds % 86400).toNat
  let second := ofDay % 60 + if t.isLeapSecond then 1 else 0
  String.ofList (writeYear d.year ++ '-' :: padded 2 d.month ++ '-' :: padded 2 d.day ++
    'T' :: padded 2 (ofDay / 3600) ++ ':' :: padded 2 (ofDay / 60 % 60) ++ ':' :: padded 2 second ++
    writeFraction (t.nanoseconds % 1000000000) ++ ['Z'])

/-- A number of one to `width` digits after blanks, and what follows it. -/
def readNumber? (width : Nat) (s : List Char) : Option (Nat × List Char) :=
  let s := trimStart s
  let ds := (s.take width).takeWhile Char.isDigit
  if ds.isEmpty then none else some (Decimal.ofDigits ds, s.drop ds.length)

/-- A year: up to four digits, or any number of digits after a sign. -/
def readYear? (s : List Char) : Option (Int × List Char) :=
  match trimStart s with
  | '-' :: r => (readDigits? r).map fun p => (-(p.1 : Int), p.2)
  | '+' :: r => (readDigits? r).map fun p => ((p.1 : Int), p.2)
  | r => (readNumber? 4 r).map fun p => ((p.1 : Int), p.2)
where
  /-- Any number of digits, at least one. -/
  readDigits? (s : List Char) : Option (Nat × List Char) :=
    let ds := s.takeWhile Char.isDigit
    if ds.isEmpty then none else some (Decimal.ofDigits ds, s.drop ds.length)

def readMark? (mark : Char) (s : List Char) : Option (List Char) :=
  dropStart? [mark] (trimStart s)

/-- The nanoseconds of the decimals of a second. Decimals after the ninth are dropped. -/
def readFraction? : List Char → Option (Nat × List Char)
  | '.' :: s =>
    let ds := s.takeWhile Char.isDigit
    if ds.isEmpty then none
    else
      let kept := ds.take 9
      some (Decimal.ofDigits kept * Nat.pow 10 (9 - kept.length), s.drop ds.length)
  | s => some (0, s)

def readPair? : List Char → Option (Nat × List Char)
  | a :: b :: s => if a.isDigit && b.isDigit then some (Decimal.ofDigits [a, b], s) else none
  | _ => none

def readOffset? (s : List Char) : Option (Int × List Char) :=
  let word := (s.take 3).map Char.toLower
  if word = ['u', 't', 'c'] then some (0, s.drop 3)
  else match s with
    | [] => none
    | c :: s =>
      if c = 'Z' ∨ c = 'z' then some (0, s)
      else if c = '+' ∨ c = '-' ∨ c = '\u2212' then do
        let (hours, s) ← readPair? s
        let (minutes, s) ← readPair? (s.dropWhile fun c => c == ':' || isBlank c)
        let seconds : Int := hours * 3600 + minutes * 60
        if minutes < 60 ∧ seconds < 86400 then
          some (if c = '+' then seconds else -seconds, s)
        else none
      else none

/-- The instant of a date, a time of day and an offset. The date must be in range as written and
also in universal time. -/
def ofFields? (d : Date) (hour minute second nanoseconds : Nat) (offset : Int) : Option Instant :=
  let leap := if second = 60 then 1 else 0
  let seconds : Int :=
    d.toDays * 86400 + hour * 3600 + minute * 60 + (second - leap : Nat) - offset
  if d.isValid && hour < 24 && minute < 60 && second ≤ 60 &&
      isCovered (Date.ofDays (seconds / 86400)).year then
    some ⟨seconds, nanoseconds + leap * 1000000000⟩
  else none

def readSeparator? : List Char → Option (List Char)
  | c :: s => if c = 'T' ∨ c = 't' ∨ c = ' ' then some s else none
  | [] => none

def read? (s : String) : Option Instant := do
  let (year, s) ← readYear? s.toList
  let s ← readMark? '-' s
  let (month, s) ← readNumber? 2 s
  let s ← readMark? '-' s
  let (day, s) ← readNumber? 2 s
  let s ← readSeparator? s
  let (hour, s) ← readNumber? 2 s
  let s ← readMark? ':' s
  let (minute, s) ← readNumber? 2 s
  let s ← readMark? ':' s
  let (second, s) ← readNumber? 2 s
  let (nanoseconds, s) ← readFraction? s
  let (offset, s) ← readOffset? (trimStart s)
  if (trimStart s).isEmpty then ofFields? ⟨year, month, day⟩ hour minute second nanoseconds offset
  else none

end Instant
end SealingProxy

import SealingProxy.Decimal.Unsigned
import SealingProxy.Text.Ascii
import SealingProxy.Text.Split
/-! # Socket addresses

An address of four octets is written with points, one of eight groups with colons and in brackets;
a colon and the port follow. Writing shortens the longest run of zero groups to two colons. -/

namespace SealingProxy

inductive SocketAddress where
  /-- Four octets and a port. -/
  | v4 (octets : List Nat) (port : Nat)
  /-- Eight groups of sixteen bits, a scope and a port. -/
  | v6 (groups : List Nat) (scope : Nat) (port : Nat)
  deriving DecidableEq, Repr

namespace SocketAddress
open Text

/-- The value of decimal digits below a bound. Leading zeros do not count. -/
def number? (bound : Nat) (ds : List Char) : Option Nat :=
  if Decimal.isDigits ds ∧ Decimal.ofDigits ds < bound then some (Decimal.ofDigits ds) else none

/-- An octet. A leading zero is refused. -/
def octet? (ds : List Char) : Option Nat :=
  if 3 < ds.length ∨ (ds.head? = some '0' ∧ ds.length ≠ 1) then none else number? 256 ds

def octets? (s : List Char) : Option (List Nat) :=
  if (pieces '.' s).length = 4 then (pieces '.' s).mapM octet? else none

/-- A group of one to four hexadecimal digits. -/
def group? (s : List Char) : Option Nat :=
  if s.isEmpty ∨ 4 < s.length then none
  else (s.mapM Text.hexDigit?).map fun ds => ds.foldl (fun n d => n * 16 + d) 0

/-- Groups with colons between them. The last two may be written as four octets. -/
def groups? : List (List Char) → Option (List Nat)
  | [] => some []
  | [g] =>
    if g.contains '.' then
      match octets? g with
      | some [a, b, c, d] => some [a * 256 + b, c * 256 + d]
      | _ => none
    else (group? g).map ([·])
  | g :: gs => do some ((← group? g) :: (← groups? gs))

def side? (s : List Char) : Option (List Nat) :=
  if s.isEmpty then some [] else groups? (pieces ':' s)

/-- The parts before and after the first two colons in a row. -/
def cutDouble : List Char → Option (List Char × List Char)
  | ':' :: ':' :: s => some ([], s)
  | c :: s => (cutDouble s).map fun p => (c :: p.1, p.2)
  | [] => none

/-- The eight groups of an address. Two colons in a row stand for at least one zero group. -/
def address? (s : List Char) : Option (List Nat) :=
  match cutDouble s with
  | none => (side? s).filter (·.length == 8)
  | some (before, after) =>
    match side? before, side? after with
    | some b, some a =>
      if !before.contains '.' && b.length + a.length < 8 then
        some (b ++ List.replicate (8 - b.length - a.length) 0 ++ a)
      else none
    | _, _ => none

/-- What stands in the brackets: an address and a scope. -/
def scoped? (s : List Char) : Option (List Nat × Nat) :=
  match cut '%' s with
  | none => (address? s).map (·, 0)
  | some (a, scope) => do some (← address? a, ← number? UInt32.size scope)

def read? (s : String) : Option SocketAddress :=
  match cutLast ':' s.toList with
  | none => none
  | some (host, port) =>
    match number? 65536 port with
    | none => none
    | some port =>
      match host with
      | '[' :: h =>
        if h.getLast? = some ']' then
          (scoped? h.dropLast).map fun p => .v6 p.1 p.2 port
        else none
      | h => (octets? h).map fun o => .v4 o port

def writeGroup (n : Nat) : String :=
  String.ofList (Nat.toDigits 16 n)

def writeOctets (os : List Nat) : String :=
  ".".intercalate (os.map Decimal.text)

def writeGroups (gs : List Nat) : String :=
  ":".intercalate (gs.map writeGroup)

/-- The length of the run of zeros at the start. -/
def zeros (gs : List Nat) : Nat :=
  (gs.takeWhile (· == 0)).length

/-- The place and the length of the first of the longest runs of zeros. -/
def longestZeros (gs : List Nat) : Nat × Nat :=
  (List.range gs.length).foldl (fun best i =>
    if best.2 < zeros (gs.drop i) then (i, zeros (gs.drop i)) else best) (0, 0)

/-- The text of eight groups. An embedded address of four octets keeps its points. -/
def writeAddress (gs : List Nat) : String :=
  match gs with
  | [0, 0, 0, 0, 0, 0xFFFF, a, b] =>
    "::ffff:" ++ writeOctets [a / 256, a % 256, b / 256, b % 256]
  | gs =>
    let run := longestZeros gs
    if 1 < run.2 then
      writeGroups (gs.take run.1) ++ "::" ++ writeGroups (gs.drop (run.1 + run.2))
    else writeGroups gs

def text : SocketAddress → String
  | v4 os port => writeOctets os ++ ":" ++ Decimal.text port
  | v6 gs scope port =>
    "[" ++ writeAddress gs ++ (if scope = 0 then "" else "%" ++ Decimal.text scope) ++ "]:" ++
      Decimal.text port

end SocketAddress
end SealingProxy

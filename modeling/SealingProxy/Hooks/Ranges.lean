import SealingProxy.Bytes
import SealingProxy.Decimal.Unsigned
import SealingProxy.Text.Blank
import SealingProxy.Text.Split
/-! # Ranges of bytes

A download may ask for one range of an object. The range is resolved against the length of the
plaintext. A request that carries an object may state which bytes of it the body holds; only
statements that mean the whole object are accepted. -/

namespace SealingProxy
open Text

/-- The bytes from `start` up to `stop`, the latter left out. -/
structure ByteRange where
  start : Nat
  stop : Nat
  deriving DecidableEq, Repr

namespace ByteRange

/-- The first and the last position of a range of bytes, trimmed. -/
def bounds? (header : List Char) : Option (List Char × List Char) :=
  match cut '=' (trim header) with
  | none => none
  | some (unit, range) =>
    if (trim unit).map Char.toLower != "bytes".toList || range.contains ',' then none
    else (cut '-' (trim range)).map fun p => (trim p.1, trim p.2)

def ofSuffix? (last : List Char) (length : Nat) : Option ByteRange :=
  match Decimal.read? last with
  | none => none
  | some n => if n = 0 then none else some ⟨length - n, length⟩

def ofFirst? (first last : List Char) (length : Nat) : Option ByteRange :=
  match Decimal.read? first with
  | none => none
  | some a =>
    if length < a then none
    else if last.isEmpty then some ⟨a, length⟩
    else match Decimal.read? last with
      | none => none
      | some b => if b < a then none else some ⟨a, min (b + 1) length⟩

def parse? (header : String) (length : Nat) : Option ByteRange :=
  match bounds? header.toList with
  | none => none
  | some (first, last) =>
    if first.isEmpty then ofSuffix? last length else ofFirst? first last length

def slice (r : ByteRange) (content : Bytes) : Bytes :=
  (content.take r.stop).drop r.start

def contentRange (r : ByteRange) (total : Nat) : String :=
  if r.start < r.stop then
    "bytes " ++ Decimal.text r.start ++ "-" ++ Decimal.text (r.stop - 1) ++ "/" ++
      Decimal.text total
  else "bytes */" ++ Decimal.text total

end ByteRange

namespace ContentRange

/-- The statement means all bytes of a body of the given length. -/
def isWhole (header : List Char) (length : Nat) : Bool :=
  match dropStart? "bytes ".toList header with
  | none => false
  | some value =>
    match cut '/' (trim value) with
    | none => false
    | some (range, total) =>
      match Decimal.read? (trim total) with
      | none => false
      | some total =>
        if trim range = ['*'] then total = 0 && length = 0
        else match cut '-' range with
          | none => false
          | some (first, last) =>
            match Decimal.read? (trim first), Decimal.read? (trim last) with
            | some a, some b => a = 0 && b + 1 = total && total = length
            | _, _ => false

end ContentRange
end SealingProxy

import SealingProxy.Json.Reader
import SealingProxy.Text.Ascii
/-! # Outlines of JSON objects

The outline of an object gives each member the octets of its value. Such a value is checked for
its shape alone. It may hold numbers of any size, strings that are no text, and any depth of
containers, so an object may have an outline and no value. Octets are read as the characters of
their code points, because no octet of a longer character is a quote, a backslash or a bracket. -/

namespace SealingProxy.Json.Outline
open Text

/-- A reader that keeps nothing but what may come next, for a text of the given length. -/
def rules (length : Nat) : Reader.Rules :=
  { add := fun members _ _ => members, maxOpen := length }

/-- What follows a string, after its opening quote. -/
def skipString? : List Char → Option (List Char)
  | [] => none
  | '"' :: s => some s
  | '\\' :: 'u' :: a :: b :: c :: d :: s =>
    if ([a, b, c, d].all fun h => (Text.hexDigit? h).isSome) then skipString? s else none
  | '\\' :: c :: s => if "\"\\/bfnrt".toList.contains c then skipString? s else none
  | c :: s => if c = '\\' ∨ c.toNat < 0x20 then none else skipString? s

/-- The kind of the first token of a text that does not start with a blank, and what follows the
token. Strings and numbers stand for all of their kind. -/
def next? (c : Char) (s : List Char) : Option (JsonToken × List Char) :=
  if c = '"' then (skipString? s).map (.string "", ·)
  else if c = '-' ∨ c.isDigit then (JsonToken.readWritten? (c :: s)).map fun p => (.null, p.2)
  else JsonToken.next? c s

def skipFrom? (rules : Reader.Rules) (r : Reader) (s : List Char) : Option (List Char) :=
  match r, s with
  | .done _, s => some s
  | _, [] => none
  | r, c :: s =>
    if JsonToken.isSpace c then skipFrom? rules r s
    else match next? c s with
      | none => none
      | some (t, rest) =>
        if rest.length < (c :: s).length then
          match Reader.step rules r t with
          | none => none
          | some r => skipFrom? rules r rest
        else none
termination_by s.length
decreasing_by
  · exact Nat.lt_succ_self _
  · assumption

/-- The octets of the value that a text starts with, and what follows it. -/
def takeValue? (s : List Char) : Option (Bytes × List Char) :=
  (skipFrom? (rules s.length) (.value []) s).map fun rest =>
    ((s.take (s.length - rest.length)).map fun c => c.toNat.toUInt8, rest)

def dropSpace (s : List Char) : List Char :=
  s.dropWhile JsonToken.isSpace

def takeMember? (s : List Char) : Option ((String × Bytes) × List Char) := do
  let (name, s) ← takeValue? s
  let name ← (Json.read? name).bind Json.string?
  let s ← dropStart? [':'] (dropSpace s)
  let (value, s) ← takeValue? s
  some ((name, value), s)

/-- The members of an object, from the name of one of them to the end of the text. -/
def membersFrom? (s : List Char) : Option (Fields Bytes) :=
  match takeMember? s with
  | none => none
  | some (member, t) =>
    match dropSpace t with
    | ',' :: rest =>
      if rest.length < s.length then (membersFrom? rest).map (member :: ·) else none
    | '\x7d' :: rest => if (dropSpace rest).isEmpty then some [member] else none
    | _ => none
termination_by s.length

def read? (s : Bytes) : Option (Fields Bytes) :=
  match dropSpace (s.map charOfByte) with
  | '\x7b' :: rest =>
    match dropSpace rest with
    | '\x7d' :: rest => if (dropSpace rest).isEmpty then some [] else none
    | rest => membersFrom? rest
  | _ => none

end SealingProxy.Json.Outline

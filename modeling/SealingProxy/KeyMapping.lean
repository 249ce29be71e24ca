import SealingProxy.Text.Blank
import SealingProxy.Text.Split
/-! # Which key seals which bucket

A mapping is written `bucket:key,bucket:key`. An entry for the bucket `*` holds for every bucket
and wins over all others, wherever it stands; of two entries for one bucket the later one wins.
A bucket that no entry names has no key, and its objects are not sealed. -/

namespace SealingProxy

inductive MappingError where
  | missingSeparator (entry : String)
  | emptyField (entry : String)
  deriving DecidableEq, Repr

namespace MappingError

def message : MappingError → String
  | missingSeparator e => "entry '" ++ e ++ "' is not of the form bucket:key"
  | emptyField e => "entry '" ++ e ++ "' has an empty bucket or key"

end MappingError

/-- The keys of buckets: one for all of them, or one for each that is listed. -/
structure KeyMapping where
  everyBucket : Option String := none
  perBucket : List (String × String) := []
  deriving DecidableEq, Repr

namespace KeyMapping
open Text

/-- The bucket name that stands for every bucket. -/
def wildcard : String := "*"

structure Entry where
  bucket : String
  key : String
  deriving DecidableEq, Repr

/-- The entries of a written mapping, trimmed, without the empty ones. -/
def entryTexts (raw : String) : List (List Char) :=
  ((pieces ',' raw.toList).map trim).filter (!·.isEmpty)

/-- Reads an entry. The first colon separates, as neither part may hold one before it. -/
def readEntry (entry : List Char) : Except MappingError Entry :=
  match cut ':' entry with
  | none => .error (.missingSeparator (String.ofList entry))
  | some (bucket, key) =>
    if (trim bucket).isEmpty || (trim key).isEmpty then
      .error (.emptyField (String.ofList entry))
    else .ok ⟨String.ofList (trim bucket), String.ofList (trim key)⟩

/-- The mapping with one more entry, which wins over the earlier ones for its bucket. -/
def add (m : KeyMapping) (e : Entry) : KeyMapping :=
  if e.bucket = wildcard then { m with everyBucket := some e.key }
  else { m with perBucket := (e.bucket, e.key) :: m.perBucket.filter (·.1 != e.bucket) }

/-- Reads a mapping. The first bad entry decides the error. -/
def parse (raw : String) : Except MappingError KeyMapping :=
  match (entryTexts raw).mapM readEntry with
  | .error e => .error e
  | .ok entries => .ok (entries.foldl add {})

def resolve (m : KeyMapping) (bucket : String) : Option String :=
  match m.everyBucket with
  | some key => some key
  | none => (m.perBucket.find? (·.1 == bucket)).map (·.2)

def isEmpty (m : KeyMapping) : Bool :=
  m.everyBucket.isNone && m.perBucket.isEmpty

/-- The keys that some bucket has, each once, in ascending order. -/
def keyIds (m : KeyMapping) : List String :=
  match m.everyBucket with
  | some key => [key]
  | none => (m.perBucket.map (·.2)).eraseDups.mergeSort fun a b => decide (a ≤ b)

end KeyMapping
end SealingProxy

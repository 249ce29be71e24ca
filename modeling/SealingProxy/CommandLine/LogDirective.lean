import SealingProxy.CommandLine.FieldPattern
import SealingProxy.CommandLine.LogLine
import SealingProxy.Text.Utf8
/-! # Directives about the log

A directive says how much is logged of all lines, or of those whose source starts with a name. In
brackets it may ask for a span, and in braces for a field of the line. It is read character by
character: the stages below say which part of it a character belongs to. -/

namespace SealingProxy

structure LogDirective where
  /-- How the source of a line has to start. -/
  source : String := ""
  /-- The source is named, though it may be empty. -/
  isNamed : Bool := false
  /-- The fields that a line has to have. -/
  fields : List String := []
  /-- The directive holds only within a span. -/
  inSpan : Bool := false
  verbosity : Nat := LogLevel.trace.rank
  deriving DecidableEq, Repr

namespace LogDirective
open Text

inductive Fault where
  | malformed
  /-- One of its parts would have to be cut within a character. -/
  | cutCharacter
  deriving DecidableEq, Repr

/-- What is being read, and at which octet it starts. -/
inductive Stage where
  | start
  /-- The source, unless it turns out to be a verbosity. -/
  | source (start : Nat)
  | span (start : Nat)
  | field (start : Nat)
  /-- Behind the fields. -/
  | afterField
  /-- Behind the brackets. -/
  | afterSpan
  | verbosity (start : Nat)
  deriving DecidableEq, Repr

/-- The verbosity that a word or a digit stands for. Zero is silence. -/
def verbosity? (s : List Char) : Option Nat :=
  match Decimal.read? s with
  | some n => if n ≤ 5 then some n else none
  | none =>
    match lower (String.ofList s) with
    | "off" => some 0
    | "error" => some 1
    | "warn" => some 2
    | "info" => some 3
    | "debug" => some 4
    | "trace" => some 5
    | _ => none

def isStart (c : Char) : Bool :=
  c == '-' || c == ':' || c == '_' || isLetterOrNumber c

/-- The text from one octet to another. -/
def part (s : List Char) (start stop : Nat) : Except Fault (List Char) :=
  match (Utf8.dropOctets? start s).bind (Utf8.takeOctets? (stop - start)) with
  | some p => .ok p
  | none => .error .cutCharacter

/-- The directive with a field that a line has to have. Lines are asked for names of fields alone:
one with a value ties the directive to spans. -/
def withField (d : LogDirective) (s : List Char) : Except Fault LogDirective :=
  match pieces '=' s with
  | [] | [[]] => .error .malformed
  | [name] => .ok { d with fields := d.fields ++ [String.ofList name] }
  | _ :: value :: _ =>
    if FieldPattern.isValue value then .ok { d with inSpan := true } else .error .malformed

/-- The directive with a verbosity. None there stands for everything. -/
def withVerbosity (d : LogDirective) (s : List Char) : Except Fault LogDirective :=
  if s.isEmpty then .ok d
  else match verbosity? s with
    | some verbosity => .ok { d with verbosity }
    | none => .error .malformed

/-- Takes in a character. Its place is counted without the blanks around the directive, but the
parts are cut out of the whole text. -/
def step (whole : List Char) (d : LogDirective) (i : Nat) (c : Char) :
    Stage → Except Fault (LogDirective × Stage)
  | .start =>
    if c = '[' then .ok (d, .span (i + 1))
    else if isStart c then .ok (d, .source i)
    else .error .malformed
  | .source start =>
    if c = '=' ∨ c = '[' then do
      let name ← part whole start i
      let d := { d with source := String.ofList name, isNamed := true }
      return (d, if c = '=' then .verbosity (i + 1) else .span (i + 1))
    else .ok (d, .source start)
  | .span start =>
    if c = ']' then do
      let _ ← part whole start i
      return ({ d with inSpan := true }, .afterSpan)
    else if c = '\x7b' then do
      let name ← part whole start i
      return ({ d with inSpan := !name.isEmpty }, .field (i + 1))
    else .ok (d, .span start)
  | .field start =>
    if c = '\x7d' then do return (← d.withField (← part whole start i), .afterField)
    else .ok (d, .field start)
  | .afterField => if c = ']' then .ok (d, .afterSpan) else .error .malformed
  | .afterSpan => if c = '=' then .ok (d, .verbosity (i + 1)) else .error .malformed
  | .verbosity start => .ok (d, .verbosity start)

def finish (whole : List Char) (d : LogDirective) : Stage → Except Fault LogDirective
  | .source start => do
    let s ← part whole start (Utf8.octets whole)
    return match verbosity? s with
      | some verbosity => { d with verbosity }
      | none => { d with source := String.ofList s, isNamed := true }
  | .verbosity start => do d.withVerbosity (← part whole start (Utf8.octets whole))
  | .afterSpan => .ok d
  | _ => .error .malformed

def readFrom (whole : List Char) (d : LogDirective) (i : Nat) (stage : Stage) :
    List Char → Except Fault LogDirective
  | [] => finish whole d stage
  | c :: s =>
    match step whole d i c stage with
    | .error e => .error e
    | .ok (d, stage) => readFrom whole d (i + c.utf8Size) stage s

def read (s : List Char) : Except Fault LogDirective :=
  readFrom s {} 0 .start (trim s)

/-- The directive applies to a line. Lines have one field, their message. -/
def applies (d : LogDirective) (l : LogLine) : Bool :=
  !d.inSpan && d.source.toList.isPrefixOf l.source.toList && d.fields.all (· == "message")

def isSpecific (d e : LogDirective) : Bool :=
  let size (d : LogDirective) := if d.isNamed then d.source.utf8ByteSize + 1 else 0
  size e < size d || (size d == size e && e.fields.length ≤ d.fields.length)

end LogDirective
end SealingProxy

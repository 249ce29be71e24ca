import SealingProxy.Text.Ascii
import SealingProxy.Text.Blank
import SealingProxy.Text.Split
import SealingProxy.Text.Utf8
/-! # Parts of a multipart body

A part has header lines, a blank line, and content. A part that starts with a blank line has no
headers; one without a blank line is all content. Lines may end in a bare line feed. -/

namespace SealingProxy

/-- The header lines of a part, in order. The case of letters in names does not count. -/
structure PartHeaders where
  entries : List (String × String) := []
  deriving DecidableEq, Repr

namespace PartHeaders
open Text

def get? (h : PartHeaders) (name : String) : Option String :=
  (h.entries.find? fun e => sameLetters e.1 name).map (·.2)

/-- Replaces the value of the first line of a name, or adds a line. -/
def set (h : PartHeaders) (name value : String) : PartHeaders :=
  match h.entries.dropWhile fun e => !sameLetters e.1 name with
  | [] => ⟨h.entries ++ [(name, value)]⟩
  | e :: rest => ⟨(h.entries.takeWhile fun e => !sameLetters e.1 name) ++ (e.1, value) :: rest⟩

def erase (h : PartHeaders) (name : String) : PartHeaders :=
  ⟨h.entries.filter fun e => !sameLetters e.1 name⟩

inductive Line where
  /-- A line of its own. -/
  | field (name value : String)
  /-- More of the value before it. -/
  | continuation (text : String)
  /-- A line that says nothing. -/
  | void

/-- Reads a line. A blank at its start makes it a continuation. -/
def readLine (line : List Char) : Line :=
  match dropEndWhile (· == '\r') line with
  | [] => .void
  | c :: s =>
    if c = ' ' ∨ c = '\t' then .continuation (String.ofList (trim (c :: s)))
    else match cut ':' (c :: s) with
      | some (name, value) => .field (String.ofList (trim name)) (String.ofList (trim value))
      | none => .void

/-- Takes in one more line. Continuations without a line before them are dropped. -/
def addLine (h : PartHeaders) : Line → PartHeaders
  | .field name value => ⟨h.entries ++ [(name, value)]⟩
  | .continuation text =>
    match h.entries.getLast? with
    | none => h
    | some (name, value) => ⟨h.entries.dropLast ++ [(name, value ++ " " ++ text)]⟩
  | .void => h

def read (block : Bytes) : PartHeaders :=
  ((pieces '\n' (Utf8.decodeLossy block)).map readLine).foldl addLine {}

end PartHeaders

namespace Part

/-- What follows the first blank line. The octets start with a line. -/
def content? : Bytes → Option Bytes
  | 13 :: 10 :: rest => some rest
  | 10 :: rest => some rest
  | s => match _h : s.afterLine with
    | none => none
    | some rest => content? rest
termination_by s => s.length
decreasing_by exact Bytes.length_lt_of_afterLine _h

def read (part : Bytes) : PartHeaders × Bytes :=
  match content? part with
  | none => ({}, part)
  | some content => (PartHeaders.read (part.take (part.length - content.length)), content)

end Part
end SealingProxy

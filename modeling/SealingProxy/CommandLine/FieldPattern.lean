import SealingProxy.Decimal.Unsigned
import SealingProxy.Text.Ascii
import SealingProxy.Text.Blank
import SealingProxy.Text.Letter
import SealingProxy.Text.Split
/-! # Patterns of field values

A log filter may ask that a field has a value that matches a regular expression. No line of the
log has such a field, so that only one thing about a pattern counts: whether it is one. This
module reads patterns piece by piece and refuses those that are malformed, that need tables of
Unicode properties, or that could match what is no text.

A pattern stands between an equals sign and a brace in a list with commas. It holds none of these,
so that forms which need a closing brace, such as counted repetitions, are refused outright. -/

namespace SealingProxy.FieldPattern
open Text

structure Modes where
  ignoresCase : Bool := false
  /-- It matches characters, and not octets. -/
  unicode : Bool := true
  /-- Blanks and comments in it have no meaning. -/
  spaced : Bool := false
  deriving DecidableEq, Repr

/-- The text without the given characters at its start, and without blanks and comments in spaced
patterns. The flag tells that the text starts within a comment. -/
def skipOver (m : Modes) (isSkipped : Char → Bool) : Bool → List Char → List Char
  | _, [] => []
  | true, c :: s => skipOver m isSkipped (c != '\n') s
  | false, c :: s =>
    if isSkipped c || (m.spaced && isBlank c) then skipOver m isSkipped false s
    else if m.spaced && c == '#' then skipOver m isSkipped true s
    else c :: s

def skip (m : Modes) (s : List Char) : List Char :=
  skipOver m (fun _ => false) false s

/-- What an escape, or a character by itself, stands for. -/
inductive Atom where
  | char (c : Char)
  /-- Digits, blanks or word characters, or all others. -/
  | kind (negated : Bool)
  /-- An end of the text. -/
  | edge
  /-- An end of a word, or any other place. -/
  | boundary
  deriving DecidableEq, Repr

/-- The atom may stand outside brackets. Ends of words and kinds of characters need tables, and
the complement of a kind of octets has octets that are no text. -/
def Atom.isAllowed (m : Modes) : Atom → Bool
  | char _ => !(m.ignoresCase && m.unicode)
  | kind negated => !m.unicode && !negated
  | edge => true
  | boundary => !m.unicode

/-- The atom may stand in brackets, where octets have to be ASCII. -/
def Atom.isAllowedInside (m : Modes) : Atom → Bool
  | char c => m.unicode || c.toNat < 128
  | kind negated => !m.unicode && !negated
  | edge | boundary => false

def hexDigits? (m : Modes) : Nat → Nat → List Char → Option (Nat × List Char)
  | 0, n, s => some (n, s)
  | count + 1, n, s =>
    match skip m s with
    | [] => none
    | c :: s =>
      match hexDigit? c with
      | none => none
      | some d => hexDigits? m count (n * 16 + d) s

/-- The character of hexadecimal digits, and what follows them. Two digits stand for an octet,
which has to be ASCII where octets are matched. -/
def hexChar? (m : Modes) (count : Nat) (s : List Char) : Option (Atom × List Char) :=
  match hexDigits? m count 0 s with
  | none => none
  | some (n, s) =>
    if count = 2 ∧ 128 ≤ n ∧ !m.unicode then none
    else (charOf? n).map fun c => (.char c, s)

def control? (c : Char) : Option Char :=
  if c = 'a' then some '\x07'
  else if c = 'f' then some '\x0c'
  else if c = 't' then some '\t'
  else if c = 'n' then some '\n'
  else if c = 'r' then some '\r'
  else if c = 'v' then some '\x0b'
  else none

/-- The character stands for itself after a backslash. -/
def isEscapable (c : Char) : Bool :=
  c.toNat < 128 && !c.isAlphanum && c != '<' && c != '>'

/-- What follows a backslash. There are no references to groups, and no properties without
tables. -/
def escape? (m : Modes) : List Char → Option (Atom × List Char)
  | [] => none
  | c :: s =>
    if c = 'x' then hexChar? m 2 s
    else if c = 'u' then hexChar? m 4 s
    else if c = 'U' then hexChar? m 8 s
    else if ['d', 's', 'w'].contains c then some (.kind false, s)
    else if ['D', 'S', 'W'].contains c then some (.kind true, s)
    else if ['A', 'z'].contains c then some (.edge, s)
    else if ['b', 'B', '<', '>'].contains c then some (.boundary, s)
    else if isEscapable c then some (.char c, s)
    else (control? c).map fun c => (.char c, s)

def atom? (m : Modes) : List Char → Option (Atom × List Char)
  | [] => none
  | '\\' :: s => escape? m s
  | c :: s => some (.char c, s)

/-! ## Brackets -/

inductive SetOperation where
  | intersection | difference | symmetricDifference
  deriving DecidableEq, Repr

/-- The joined set has octets that are not ASCII, if that is known of its parts. -/
def SetOperation.join : SetOperation → Bool → Bool → Bool
  | intersection, a, b => a && b
  | difference, a, b => a && !b
  | symmetricDifference, a, b => a != b

structure Bracket where
  negated : Bool
  /-- The sets so far, still to be joined with the next one. -/
  left : Option (SetOperation × Bool) := none
  /-- The set since then has octets that are not ASCII. -/
  hasHigh : Bool := false
  deriving DecidableEq, Repr

/-- What a bracket comes to: the set has octets that are not ASCII. -/
def Bracket.joined (b : Bracket) : Bool :=
  match b.left with
  | none => b.hasHigh
  | some (operation, left) => operation.join left b.hasHigh

def Bracket.operate (b : Bracket) (operation : SetOperation) : Bracket :=
  { b with left := some (operation, b.joined), hasHigh := false }

/-- The bracket may close. A set of octets must be ASCII, and letters of either case need
tables. -/
def Bracket.mayClose (m : Modes) (b : Bracket) : Bool :=
  if m.unicode then !m.ignoresCase else b.joined == b.negated

/-- Opens a bracket. Dashes at its start stand for themselves, and so does a closing mark. -/
def openBracket (m : Modes) (s : List Char) : Bracket × List Char :=
  let (negated, s) := match skip m s with
    | '^' :: s => (true, skip m s)
    | s => (false, s)
  match s with
  | ']' :: s => (⟨negated, none, false⟩, s)
  | s => (⟨negated, none, false⟩, skipOver m (· == '-') false s)

def namedSets : List String :=
  ["alnum", "alpha", "ascii", "blank", "cntrl", "digit", "graph", "lower", "print", "punct",
    "space", "upper", "word", "xdigit"]

/-- A set by its name between colons, after the opening mark: whether it is negated, and what
follows. -/
def namedSet? : List Char → Option (Bool × List Char)
  | ':' :: s =>
    let (negated, s) := match s with
      | '^' :: s => (true, s)
      | s => (false, s)
    match cut ':' s with
    | some (name, ']' :: s) =>
      if namedSets.contains (String.ofList name) then some (negated, s) else none
    | _ => none
  | _ => none

/-- The first character that counts when a dash is told from a range. -/
def peek (m : Modes) (s : List Char) : Option Char :=
  if m.spaced then
    match s.dropWhile isBlank with
    | '#' :: s => (s.dropWhile isBlank).head?
    | s => s.head?
  else s.head?

/-- What follows an atom or a range in brackets. -/
def item? (m : Modes) (s : List Char) : Option (List Char) :=
  match atom? m s with
  | none => none
  | some (a, s) =>
    if !a.isAllowedInside m then none
    else match skip m s with
      | '-' :: t =>
        if peek m t = some ']' ∨ peek m t = some '-' then some ('-' :: t)
        else match a, atom? m (skip m t) with
          | .char low, some (.char high, s) =>
            if low ≤ high && Atom.isAllowedInside m (.char high) then some s else none
          | _, _ => none
      | s => some s

/-- What follows the brackets that are open, the innermost one first. A step takes at least one
character. -/
def closeBrackets? (m : Modes) : Nat → List Bracket → List Char → Option (List Char)
  | 0, _, _ => none
  | _, [], s => some s
  | steps + 1, b :: outer, s =>
    match skip m s with
    | [] => none
    | '[' :: s =>
      match namedSet? s with
      | some (negated, s) =>
        closeBrackets? m steps ({ b with hasHigh := b.hasHigh || negated } :: outer) s
      | none =>
        let (inner, s) := openBracket m s
        closeBrackets? m steps (inner :: b :: outer) s
    | ']' :: s => if b.mayClose m then closeBrackets? m steps outer s else none
    | '&' :: '&' :: s => closeBrackets? m steps (b.operate .intersection :: outer) s
    | '-' :: '-' :: s => closeBrackets? m steps (b.operate .difference :: outer) s
    | '~' :: '~' :: s => closeBrackets? m steps (b.operate .symmetricDifference :: outer) s
    | s =>
      match item? m s with
      | none => none
      | some s => closeBrackets? m steps (b :: outer) s

def brackets? (m : Modes) (s : List Char) : Option (List Char) :=
  let (b, rest) := openBracket m s
  closeBrackets? m (s.length + 2) [b] rest

/-! ## Groups -/

structure Reading where
  modes : Modes := {}
  /-- The modes to come back to where the open groups end. -/
  outer : List Modes := []
  /-- Something stands before that may be repeated. -/
  hasOperand : Bool := false
  /-- The names of groups. -/
  names : List (List Char) := []

def Modes.switch (m : Modes) (isOn : Bool) (c : Char) : Modes :=
  if c = 'i' then { m with ignoresCase := isOn }
  else if c = 'u' then { m with unicode := isOn }
  else if c = 'x' then { m with spaced := isOn }
  else m

/-- The switches in front of a group: letters, each at most once, those after a dash off. -/
def switches? (m : Modes) (s : List Char) : Option Modes :=
  let on := s.takeWhile (· != '-')
  let off := s.drop (on.length + 1)
  let isSwitch (c : Char) : Bool := ['i', 'm', 's', 'U', 'u', 'R', 'x'].contains c
  if (on ++ off).all isSwitch && (on ++ off).eraseDups.length == (on ++ off).length &&
      (on.length == s.length || !off.isEmpty) then
    some (off.foldl (·.switch false ·) (on.foldl (·.switch true ·) m))
  else none

def isGroupName : List Char → Bool
  | [] => false
  | c :: s =>
    (c == '_' || isLetter c) &&
      s.all fun c => c == '_' || c == '.' || c == '[' || c == ']' || isLetterOrNumber c

def Reading.enter (r : Reading) (m : Modes) : Reading :=
  { r with modes := m, outer := r.modes :: r.outer, hasOperand := false }

/-- Opens a group with a name, which no other group has. -/
def openNamed? (r : Reading) (s : List Char) : Option (Reading × List Char) :=
  match cut '>' s with
  | none => none
  | some (name, s) =>
    if isGroupName name && !r.names.contains name then
      some ({ r.enter r.modes with names := name :: r.names }, s)
    else none

/-- Opens a group after its opening mark, or sets modes for the rest of the group around it. There
is no looking ahead or behind. -/
def openGroup? (r : Reading) (s : List Char) : Option (Reading × List Char) :=
  match skip r.modes s with
  | '?' :: 'P' :: '<' :: s => openNamed? r s
  | '?' :: '<' :: s => openNamed? r s
  | '?' :: s =>
    let letters := s.takeWhile fun c => c != ':' && c != ')'
    match switches? r.modes letters, s.drop letters.length with
    | some m, ':' :: s => some (r.enter m, s)
    | some m, ')' :: s =>
      if letters.isEmpty then none else some ({ r with modes := m, hasOperand := false }, s)
    | _, _ => none
  | s => some (r.enter r.modes, s)

def Reading.take? (r : Reading) (c : Char) (s : List Char) : Option (Reading × List Char) :=
  let operand (s : List Char) : Reading × List Char := ({ r with hasOperand := true }, s)
  if c = '(' then openGroup? r s
  else if c = ')' then
    match r.outer with
    | [] => none
    | m :: outer => some ({ r with modes := m, outer, hasOperand := true }, s)
  else if c = '|' then some ({ r with hasOperand := false }, s)
  else if c = '[' then (brackets? r.modes s).map operand
  else if ['?', '*', '+'].contains c then
    if r.hasOperand then some (r, (dropStart? ['?'] s).getD s) else none
  else if c = '\x7b' then none
  else if c = '.' then if r.modes.unicode then some (operand s) else none
  else if c = '^' ∨ c = '$' then some (operand s)
  else match atom? r.modes (c :: s) with
    | none => none
    | some (a, s) => if a.isAllowed r.modes then some (operand s) else none

/-- Reads a pattern to its end, where all groups have to be closed. A step takes at least one
character. -/
def Reading.finishes (r : Reading) : Nat → List Char → Bool
  | 0, _ => false
  | steps + 1, s =>
    match skip r.modes s with
    | [] => r.outer.isEmpty
    | c :: s =>
      match r.take? c s with
      | none => false
      | some (r, s) => r.finishes steps s

def isPattern (s : List Char) : Bool :=
  ({} : Reading).finishes (s.length + 1) s

/-! ## Values -/

/-- The text is a number: decimal digits with a sign, a point and an exponent if need be, or a word
for what is no finite number. -/
def isNumber (s : List Char) : Bool :=
  let digits (s : List Char) := s.dropWhile Char.isDigit
  let unsigned := (Decimal.takeSign s).2
  if ["inf", "infinity", "nan"].contains (lower (String.ofList unsigned)) then true
  else
    let point := match digits unsigned with
      | '.' :: s => digits s
      | s => s
    let mantissa := unsigned.take (unsigned.length - point.length)
    mantissa.any Char.isDigit &&
      match point with
      | [] => true
      | c :: s =>
        let exponent := (Decimal.takeSign s).2
        (c == 'e' || c == 'E') && !exponent.isEmpty && exponent.all Char.isDigit

def isValue (s : List Char) : Bool :=
  isNumber s || isPattern s

end SealingProxy.FieldPattern

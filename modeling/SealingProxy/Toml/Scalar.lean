import SealingProxy.Decimal.Unsigned
import SealingProxy.Text.Ascii
import SealingProxy.Text.Ranges
import SealingProxy.Text.Split
import SealingProxy.Time.Instant
import SealingProxy.Toml.Basic
import SealingProxy.Toml.Reader
/-! # Scalars of TOML documents

Strings stand in single or double quotes, three of either for strings of several lines; only double
quotes allow escapes. The other scalars are words: truth values, integers, numbers with a fraction
or an exponent, and dates with times. -/

namespace SealingProxy.Toml
open Text

def isStringChar (c : Char) : Bool :=
  isCommentChar c

def codePoint? (count : Nat) (s : List Char) : Option Char :=
  match (s.take count).mapM hexDigit? with
  | some ds => if ds.length = count then charOf? (ds.foldl (fun n d => n * 16 + d) 0) else none
  | none => none

def letterEscape? (c : Char) : Option Char :=
  if c = '"' ∨ c = '\\' then some c
  else if c = 'b' then some '\x08'
  else if c = 't' then some '\t'
  else if c = 'n' then some '\n'
  else if c = 'f' then some '\x0c'
  else if c = 'r' then some '\r'
  else none

def escape? : Reader Char
  | [] => none
  | c :: s =>
    match letterEscape? c with
    | some e => some (e, ⟨s, Nat.lt_succ_self _⟩)
    | none =>
      let count := if c = 'u' then 4 else 8
      if c = 'u' ∨ c = 'U' then
        (codePoint? count s).map (·, ⟨s.drop count, by
          rw [List.length_drop, List.length_cons]
          exact Nat.lt_succ_of_le (Nat.sub_le _ _)⟩)
      else none

/-- A string in double quotes on one line, from after some of its characters on; those are given,
the last one first. -/
def basicFrom? (whole before : List Char) (s : List Char) (h : s.length ≤ whole.length) :
    Option (List Char × Rest whole) :=
  match s with
  | [] => none
  | c :: r =>
    have hr : r.length < whole.length := h
    if c = '"' then some (before.reverse, ⟨r, hr⟩)
    else if c = '\\' then
      match escape? r with
      | none => none
      | some (e, ⟨t, ht⟩) => basicFrom? whole (e :: before) t (by omega)
    else if isStringChar c then basicFrom? whole (c :: before) r (Nat.le_of_lt hr)
    else none
termination_by s.length
decreasing_by
  · rw [List.length_cons]
    omega
  · exact Nat.lt_succ_self _

def basicRest? (s : List Char) : Option (List Char × Rest s) :=
  basicFrom? s [] s (length_le_self s)

def literalRest? : Reader (List Char) := fun s =>
  match h : s.dropWhile fun c => c != '\'' && isStringChar c with
  | '\'' :: r =>
    some (s.takeWhile fun c => c != '\'' && isStringChar c, ⟨r, by
      have := (s.dropWhile_suffix fun c => c != '\'' && isStringChar c).length_le
      rw [h] at this
      exact this⟩)
  | _ => none

def skipSpace : List Char → List Char
  | [] => []
  | '\r' :: '\n' :: s => skipSpace s
  | c :: s => if isBlank c || c == '\n' then skipSpace s else c :: s

theorem length_skipSpace_le (s : List Char) : (skipSpace s).length ≤ s.length := by
  fun_induction skipSpace s <;> simp only [List.length_cons, List.length_nil] at * <;> omega

/-- What follows a backslash at the end of a line: blanks and line ends are passed over. -/
def foldedLine? (s : List Char) : Option (List Char) :=
  (lineEnd? (skipBlanks s)).map skipSpace

theorem length_lt_of_foldedLine? {s t : List Char} (h : foldedLine? s = some t) :
    t.length < s.length := by
  obtain ⟨r, hr, rfl⟩ := Option.map_eq_some_iff.1 h
  exact Nat.lt_of_le_of_lt (length_skipSpace_le r)
    (Nat.lt_of_lt_of_le (length_lt_of_lineEnd? hr) (length_skipBlanks_le s))

/-- A string of several lines in the given quotes, from after some of its characters on; those are
given, the last one first. Up to two quotes may stand before the closing ones. -/
def linesFrom? (quote : Char) (whole before : List Char) (s : List Char)
    (h : s.length ≤ whole.length) : Option (List Char × Rest whole) :=
  match hs : s with
  | [] => none
  | c :: r =>
    have hr : r.length < whole.length := h
    if c = quote then
      let quotes := ((c :: r).takeWhile (· == quote)).length
      if 3 ≤ quotes then
        if quotes ≤ 5 then
          some (before.reverse ++ List.replicate (quotes - 3) quote, ⟨r.drop (quotes - 1), by
            rw [List.length_drop]
            omega⟩)
        else none
      else linesFrom? quote whole (c :: before) r (Nat.le_of_lt hr)
    else if c = '\\' ∧ quote = '"' then
      match hf : foldedLine? r with
      | some t =>
        have := length_lt_of_foldedLine? hf
        linesFrom? quote whole before t (by omega)
      | none =>
        match escape? r with
        | none => none
        | some (e, ⟨t, ht⟩) => linesFrom? quote whole (e :: before) t (by omega)
    else match hl : lineEnd? (c :: r) with
      | some t =>
        have := length_lt_of_lineEnd? hl
        linesFrom? quote whole ('\n' :: before) t (by omega)
      | none =>
        if isStringChar c then linesFrom? quote whole (c :: before) r (Nat.le_of_lt hr) else none
termination_by s.length
decreasing_by all_goals (simp only [List.length_cons] at *; omega)

/-- A string of several lines after its opening quotes. A line end right after these is left
out. -/
def linesRest? (quote : Char) (s : List Char) : Option (List Char × Rest s) :=
  match h : lineEnd? s with
  | none => linesFrom? quote s [] s (length_le_self s)
  | some r => linesFrom? quote s [] r (Nat.le_of_lt (length_lt_of_lineEnd? h))

def quoted? : Reader (List Char)
  | '"' :: '"' :: '"' :: r =>
    (linesRest? '"' r).map fun p => (p.1, Rest.cons (Rest.cons (Rest.cons p.2)))
  | '\'' :: '\'' :: '\'' :: r =>
    (linesRest? '\'' r).map fun p => (p.1, Rest.cons (Rest.cons (Rest.cons p.2)))
  | '"' :: r => (basicRest? r).map fun p => (p.1, Rest.cons p.2)
  | '\'' :: r => (literalRest? r).map fun p => (p.1, Rest.cons p.2)
  | _ => none

/-- Digits with single underscores between them. -/
def spacedDigits? (isDigit : Char → Bool) (s : List Char) : Option (List Char) :=
  let groups := pieces '_' s
  if groups.all fun g => !g.isEmpty && g.all isDigit then some groups.flatten else none

def ofDigits (base : Nat) (ds : List Char) : Nat :=
  ds.foldl (fun n c => n * base + (hexDigit? c).getD 0) 0

/-- Decimal digits that do not start with a zero, or a zero alone. -/
def wholeDigits? (s : List Char) : Option (List Char) :=
  match spacedDigits? Char.isDigit s with
  | some ['0'] => some ['0']
  | some ('0' :: _) => none
  | r => r

def isDigitOf (base : Nat) (c : Char) : Bool :=
  match hexDigit? c with
  | some d => d < base
  | none => false

/-- The value of digits in a base, unless there are too many of them for an integer of 64 bits. -/
def shortNumber? (base : Nat) (ds : List Char) : Option Int :=
  let ds := ds.dropWhile (· == '0')
  if ds.length ≤ 64 then some (ofDigits base ds) else none

/-- The integer that a word is. Only decimals have a sign. -/
def integer? (s : List Char) : Option Int :=
  let inBase (base : Nat) (ds : List Char) : Option Int :=
    (spacedDigits? (isDigitOf base) ds).bind (shortNumber? base)
  let n? : Option Int := match s with
    | '0' :: 'x' :: ds => inBase 16 ds
    | '0' :: 'o' :: ds => inBase 8 ds
    | '0' :: 'b' :: ds => inBase 2 ds
    | s =>
      ((wholeDigits? (Decimal.takeSign s).2).bind (shortNumber? 10)).map fun n =>
        if (Decimal.takeSign s).1 then -n else n
  n?.filter fun n => -9223372036854775808 ≤ n && n < 9223372036854775808

/-- The magnitude of a decimal with an exponent is not too large for a double. The largest double
has 309 digits before the point. -/
def isFiniteDecimal (digits : List Char) (exponent : Int) : Bool :=
  let digits := digits.dropWhile (· == '0')
  let size : Int := digits.length + exponent
  digits.isEmpty || size < 309 || (size == 309 &&
    !(Float.ofScientific (Decimal.ofDigits digits) (decide (exponent < 0)) exponent.natAbs).isInf)

def exponent? (s : List Char) : Option Int :=
  (spacedDigits? Char.isDigit (Decimal.takeSign s).2).map fun ds =>
    if (Decimal.takeSign s).1 then -(ofDigits 10 ds : Int) else ofDigits 10 ds

/-- The word is a number with a fraction or an exponent. One that is too large is refused, unless it
is negative and so stands for minus infinity. -/
def isFloat (s : List Char) : Bool :=
  let body := (Decimal.takeSign s).2
  if body = "inf".toList ∨ body = "nan".toList then true
  else
    let mantissa := body.takeWhile fun c => c != 'e' && c != 'E'
    let exponent := match body.drop mantissa.length with
      | [] => some none
      | _ :: e => (exponent? e).map some
    let parts := match cut '.' mantissa with
      | none => (wholeDigits? mantissa).map fun w => (w, ([] : List Char))
      | some (w, f) =>
        match wholeDigits? w, spacedDigits? Char.isDigit f with
        | some w, some f => some (w, f)
        | _, _ => none
    match parts, exponent with
    | some (w, f), some e =>
      (!f.isEmpty || e.isSome) &&
        ((Decimal.takeSign s).1 || isFiniteDecimal (w ++ f) (e.getD 0 - f.length))
    | _, _ => false

/-- The word is made up of fields of the given numbers of digits, with marks between them. -/
def fields? (shape : List (Nat × Option Char)) (s : List Char) : Option (List Nat × List Char) :=
  match shape with
  | [] => some ([], s)
  | (width, mark) :: shape =>
    let ds := (s.take width).takeWhile Char.isDigit
    if ds.length = width then
      let r := s.drop width
      match mark with
      | none => (fields? shape r).map fun p => (Decimal.ofDigits ds :: p.1, p.2)
      | some m =>
        match dropStart? [m] r with
        | some r => (fields? shape r).map fun p => (Decimal.ofDigits ds :: p.1, p.2)
        | none => none
    else none

def date? (s : List Char) : Option (List Char) :=
  match fields? [(4, some '-'), (2, some '-'), (2, none)] s with
  | some ([y, m, d], r) => if Instant.Date.isValid ⟨y, m, d⟩ then some r else none
  | _ => none

def time? (s : List Char) : Option (List Char) :=
  match fields? [(2, some ':'), (2, some ':'), (2, none)] s with
  | some ([h, m, sec], r) =>
    if h < 24 ∧ m < 60 ∧ sec ≤ 60 then
      match r with
      | '.' :: t =>
        if (t.takeWhile Char.isDigit).isEmpty then none else some (t.dropWhile Char.isDigit)
      | r => some r
    else none
  | _ => none

/-- The text is an offset from universal time, or nothing. -/
def isOffset (s : List Char) : Bool :=
  s = [] || s = ['Z'] || s = ['z'] ||
    match s with
    | c :: r =>
      (c == '+' || c == '-') &&
        match fields? [(2, some ':'), (2, none)] r with
        | some ([h, m], []) => h < 24 && m < 60
        | _ => false
    | [] => false

/-- The word is a date, a time of day, or both. -/
def isDate (s : List Char) : Bool :=
  match date? s with
  | some [] => true
  | some (c :: r) =>
    (c == 'T' || c == 't' || c == ' ') &&
      match time? r with
      | some o => isOffset o
      | none => false
  | none => time? s == some []

def word? (s : List Char) : Option Toml :=
  if s = "true".toList then some (.boolean true)
  else if s = "false".toList then some (.boolean false)
  else match integer? s with
    | some n => some (.integer n)
    | none => if isDate s then some .date else if isFloat s then some .float else none

def isWordChar (c : Char) : Bool :=
  c.isAlphanum || ['_', '+', '-', '.', ':'].contains c

/-- The word at the start of a text. A date takes in the time after one space. -/
def takeWord (s : List Char) : List Char × List Char :=
  match s.dropWhile isWordChar with
  | ' ' :: d :: t =>
    if date? (s.takeWhile isWordChar) = some [] ∧ d.isDigit then
      (s.takeWhile isWordChar ++ ' ' :: (d :: t).takeWhile isWordChar,
        (d :: t).dropWhile isWordChar)
    else (s.takeWhile isWordChar, ' ' :: d :: t)
  | r => (s.takeWhile isWordChar, r)

theorem takeWord_append (s : List Char) : (takeWord s).1 ++ (takeWord s).2 = s := by
  have h := List.takeWhile_append_dropWhile (p := isWordChar) (l := s)
  unfold takeWord
  split
  · next d t hr =>
    rw [hr] at h
    split
    · rw [List.append_assoc, List.cons_append, List.takeWhile_append_dropWhile, h]
    · exact h
  · exact h

def scalar? : Reader Toml := fun s =>
  match hw : takeWord s with
  | ([], _) => none
  | (c :: w, r) =>
    (word? (c :: w)).map (·, ⟨r, by
      have h : c :: w ++ r = s := by
        have h := takeWord_append s
        rwa [hw] at h
      rw [← h, List.length_append, List.length_cons]
      omega⟩)

end SealingProxy.Toml

import SealingProxy.Json.Number
import SealingProxy.Text.Ascii
import SealingProxy.Text.Split
/-! # Tokens of JSON texts

A text is a sequence of tokens with blanks between them. A token reads as the longest one that the
text starts with. -/

namespace SealingProxy

inductive JsonToken where
  | openArray
  | closeArray
  | openObject
  | closeObject
  | comma
  | colon
  | null
  | bool (b : Bool)
  | number (n : JsonNumber)
  | string (s : String)

namespace JsonToken
open Text

def isSpace (c : Char) : Bool :=
  c == ' ' || c == '\t' || c == '\n' || c == '\r'

def hexUnit? : List Char → Option (Nat × List Char)
  | a :: b :: c :: d :: s =>
    match hexDigit? a, hexDigit? b, hexDigit? c, hexDigit? d with
    | some a, some b, some c, some d => some (((a * 16 + b) * 16 + c) * 16 + d, s)
    | _, _, _, _ => none
  | _ => none

/-- The character of the escape that starts after `\u`. Two surrogates make one character. -/
def unitEscape? (s : List Char) : Option (Char × List Char) :=
  match hexUnit? s with
  | none => none
  | some (n, s) =>
    if n < 0xD800 ∨ 0xDFFF < n then some (Char.ofNat n, s)
    else match s with
      | '\\' :: 'u' :: s =>
        match hexUnit? s with
        | none => none
        | some (m, s) =>
          if n < 0xDC00 ∧ 0xDC00 ≤ m ∧ m ≤ 0xDFFF then
            some (Char.ofNat (0x10000 + (n - 0xD800) * 0x400 + (m - 0xDC00)), s)
          else none
      | _ => none

def escape? : List Char → Option (Char × List Char)
  | '"' :: s => some ('"', s)
  | '\\' :: s => some ('\\', s)
  | '/' :: s => some ('/', s)
  | 'b' :: s => some ('\x08', s)
  | 'f' :: s => some ('\x0c', s)
  | 'n' :: s => some ('\n', s)
  | 'r' :: s => some ('\r', s)
  | 't' :: s => some ('\t', s)
  | 'u' :: s => unitEscape? s
  | _ => none

theorem length_lt_of_hexUnit? {s r : List Char} {n : Nat} (h : hexUnit? s = some (n, r)) :
    r.length < s.length := by
  unfold hexUnit? at h
  split at h
  · split at h
    · simp only [Option.some.injEq, Prod.mk.injEq] at h
      rw [← h.2]
      simp only [List.length_cons]
      omega
    · cases h
  · cases h

theorem length_lt_of_unitEscape? {s r : List Char} {c : Char}
    (h : unitEscape? s = some (c, r)) : r.length < s.length := by
  unfold unitEscape? at h
  split at h
  · cases h
  · next n t ht =>
    have h₁ := length_lt_of_hexUnit? ht
    split at h
    · cases h; exact h₁
    · split at h
      · split at h
        · cases h
        · next u hu =>
          have h₂ := length_lt_of_hexUnit? hu
          split at h
          · simp only [Option.some.injEq, Prod.mk.injEq] at h
            rw [← h.2]
            simp only [List.length_cons] at h₁
            omega
          · cases h
      · cases h

theorem length_lt_of_escape? {s r : List Char} {c : Char} (h : escape? s = some (c, r)) :
    r.length < s.length := by
  unfold escape? at h
  split at h
  case h_9 =>
    have := length_lt_of_unitEscape? h
    rw [List.length_cons]
    omega
  case h_10 => cases h
  all_goals
    simp only [Option.some.injEq, Prod.mk.injEq] at h
    rw [← h.2, List.length_cons]
    omega

/-- The characters up to the closing quote, and what follows it. -/
def readString? : List Char → Option (List Char × List Char)
  | [] => none
  | c :: s =>
    if c = '"' then some ([], s)
    else if c = '\\' then
      match _hr : escape? s with
      | none => none
      | some (e, r) => (readString? r).map fun p => (e :: p.1, p.2)
    else if c.toNat < 0x20 then none
    else (readString? s).map fun p => (c :: p.1, p.2)
termination_by s => s.length
decreasing_by
  · have := length_lt_of_escape? _hr
    rw [List.length_cons]
    omega
  · rw [List.length_cons]
    omega

def digits (s : List Char) : List Char × List Char :=
  (s.takeWhile Char.isDigit, s.dropWhile Char.isDigit)

/-- The whole digits of a number: a zero alone, or digits that do not start with a zero. -/
def readWhole? : List Char → Option (List Char × List Char)
  | '0' :: s => some (['0'], s)
  | s => if (digits s).1.isEmpty then none else some (digits s)

def readDecimals? : List Char → Option (List Char × List Char)
  | '.' :: s => if (digits s).1.isEmpty then none else some (digits s)
  | s => some ([], s)

def readExponent? : List Char → Option (Option Int × List Char)
  | c :: s =>
    if c = 'e' ∨ c = 'E' then
      let ds := digits (Decimal.takeSign s).2
      let n : Int := Decimal.ofDigits ds.1
      if ds.1.isEmpty then none
      else some (some (if (Decimal.takeSign s).1 then -n else n), ds.2)
    else some (none, c :: s)
  | [] => some (none, [])

def readMinus : List Char → Bool × List Char
  | '-' :: s => (true, s)
  | s => (false, s)

def readWritten? (s : List Char) : Option (JsonNumber.Written × List Char) :=
  match readWhole? (readMinus s).2 with
  | none => none
  | some (whole, r) => match readDecimals? r with
    | none => none
    | some (decimals, r) =>
      (readExponent? r).map fun p => (⟨(readMinus s).1, whole, decimals, p.1⟩, p.2)

def readNumber? (s : List Char) : Option (JsonNumber × List Char) :=
  match readWritten? s with
  | none => none
  | some (w, s) => (JsonNumber.ofWritten? w).map (·, s)

def mark? (c : Char) : Option JsonToken :=
  if c = '[' then some openArray
  else if c = ']' then some closeArray
  else if c = '\x7b' then some openObject
  else if c = '\x7d' then some closeObject
  else if c = ',' then some comma
  else if c = ':' then some colon
  else none

/-- The first token of a text that does not start with a blank, and what follows it. -/
def next? (c : Char) (s : List Char) : Option (JsonToken × List Char) :=
  match mark? c with
  | some t => some (t, s)
  | none =>
    if c = '"' then (readString? s).map fun p => (string (String.ofList p.1), p.2)
    else if c = 'n' then (dropStart? "ull".toList s).map (null, ·)
    else if c = 't' then (dropStart? "rue".toList s).map (bool true, ·)
    else if c = 'f' then (dropStart? "alse".toList s).map (bool false, ·)
    else (readNumber? (c :: s)).map fun p => (number p.1, p.2)

theorem length_lt_of_readString? {s r p : List Char} (h : readString? s = some (p, r)) :
    r.length < s.length := by
  fun_induction readString? s generalizing p with
  | case1 => cases h
  | case2 s =>
    cases h
    exact Nat.lt_succ_self _
  | case3 => cases h
  | case4 s e t he _ ih =>
    obtain ⟨q, hq, hp⟩ := Option.map_eq_some_iff.1 h
    cases hp
    exact Nat.lt_succ_of_lt (Nat.lt_trans (ih hq) (length_lt_of_escape? he))
  | case5 => cases h
  | case6 c s _ _ _ ih =>
    obtain ⟨q, hq, hp⟩ := Option.map_eq_some_iff.1 h
    cases hp
    exact Nat.lt_succ_of_lt (ih hq)

theorem length_digits_le (s : List Char) : (digits s).2.length ≤ s.length :=
  (List.dropWhile_suffix _).length_le

theorem length_digits_lt {s : List Char} (h : ¬(digits s).1.isEmpty) :
    (digits s).2.length < s.length := by
  have hs := congrArg List.length (List.takeWhile_append_dropWhile (p := Char.isDigit) (l := s))
  have hd : 0 < (s.takeWhile Char.isDigit).length :=
    List.length_pos_iff.2 (mt List.isEmpty_iff.2 h)
  rw [List.length_append] at hs
  change (s.dropWhile Char.isDigit).length < s.length
  omega

theorem length_readMinus_le (s : List Char) : (readMinus s).2.length ≤ s.length := by
  unfold readMinus
  split
  · exact Nat.le_succ _
  · exact Nat.le_refl _

theorem length_lt_of_readWhole? {s w r : List Char} (h : readWhole? s = some (w, r)) :
    r.length < s.length := by
  unfold readWhole? at h
  split at h
  · cases h
    exact Nat.lt_succ_self _
  · split at h
    · cases h
    · next hw =>
      cases h
      exact length_digits_lt hw

theorem length_le_of_readDecimals? {s d r : List Char} (h : readDecimals? s = some (d, r)) :
    r.length ≤ s.length := by
  unfold readDecimals? at h
  split at h
  · split at h
    · cases h
    · cases h
      exact Nat.le_succ_of_le (length_digits_le _)
  · cases h
    exact Nat.le_refl _

theorem length_le_of_readExponent? {s r : List Char} {e : Option Int}
    (h : readExponent? s = some (e, r)) : r.length ≤ s.length := by
  unfold readExponent? at h
  split at h
  · split at h
    · dsimp only at h
      split at h
      · cases h
      · cases h
        exact Nat.le_succ_of_le (Nat.le_trans (length_digits_le _) (Decimal.length_takeSign_le _))
    · cases h
      exact Nat.le_refl _
  · cases h
    exact Nat.le_refl _

theorem length_lt_of_readWritten? {s r : List Char} {w : JsonNumber.Written}
    (h : readWritten? s = some (w, r)) : r.length < s.length := by
  unfold readWritten? at h
  split at h
  · cases h
  · next h₁ =>
    split at h
    · cases h
    · next h₂ =>
      obtain ⟨e, h₃, he⟩ := Option.map_eq_some_iff.1 h
      cases he
      exact Nat.lt_of_le_of_lt
        (Nat.le_trans (length_le_of_readExponent? h₃) (length_le_of_readDecimals? h₂))
        (Nat.lt_of_lt_of_le (length_lt_of_readWhole? h₁) (length_readMinus_le s))

theorem length_lt_of_readNumber? {s r : List Char} {n : JsonNumber}
    (h : readNumber? s = some (n, r)) : r.length < s.length := by
  unfold readNumber? at h
  split at h
  · cases h
  · next hw =>
    obtain ⟨m, _, hm⟩ := Option.map_eq_some_iff.1 h
    cases hm
    exact length_lt_of_readWritten? hw

theorem length_le_of_dropStart? {p s r : List Char} (h : dropStart? p s = some r) :
    r.length ≤ s.length := by
  rw [dropStart?_eq_some_iff.1 h, List.length_append]
  exact Nat.le_add_left _ _

theorem length_le_of_next? {c : Char} {s r : List Char} {t : JsonToken}
    (h : next? c s = some (t, r)) : r.length ≤ s.length := by
  unfold next? at h
  split at h
  · cases h
    exact Nat.le_refl _
  · split at h
    · obtain ⟨p, hp, hr⟩ := Option.map_eq_some_iff.1 h
      cases hr
      exact Nat.le_of_lt (length_lt_of_readString? hp)
    · split at h
      · obtain ⟨p, hp, hr⟩ := Option.map_eq_some_iff.1 h
        cases hr
        exact length_le_of_dropStart? hp
      · split at h
        · obtain ⟨p, hp, hr⟩ := Option.map_eq_some_iff.1 h
          cases hr
          exact length_le_of_dropStart? hp
        · split at h
          · obtain ⟨p, hp, hr⟩ := Option.map_eq_some_iff.1 h
            cases hr
            exact length_le_of_dropStart? hp
          · obtain ⟨p, hp, hr⟩ := Option.map_eq_some_iff.1 h
            cases hr
            exact Nat.le_of_lt_succ (length_lt_of_readNumber? hp)

def read? : List Char → Option (List JsonToken)
  | [] => some []
  | c :: s =>
    if isSpace c then read? s
    else match _h : next? c s with
      | none => none
      | some (t, r) => (read? r).map (t :: ·)
termination_by s => s.length
decreasing_by
  · exact Nat.lt_succ_self _
  · exact Nat.lt_succ_of_le (length_le_of_next? _h)

def controlEscape (c : Char) : List Char :=
  match c with
  | '\x08' => ['\\', 'b']
  | '\t' => ['\\', 't']
  | '\n' => ['\\', 'n']
  | '\x0c' => ['\\', 'f']
  | '\r' => ['\\', 'r']
  | c => ['\\', 'u', '0', '0', Nat.digitChar (c.toNat / 16), Nat.digitChar (c.toNat % 16)]

def writeChar (c : Char) : List Char :=
  if c = '"' then ['\\', '"']
  else if c = '\\' then ['\\', '\\']
  else if c.toNat < 0x20 then controlEscape c
  else [c]

def text : JsonToken → List Char
  | openArray => ['[']
  | closeArray => [']']
  | openObject => ['\x7b']
  | closeObject => ['\x7d']
  | comma => [',']
  | colon => [':']
  | null => "null".toList
  | bool true => "true".toList
  | bool false => "false".toList
  | number n => n.text
  | string s => '"' :: (s.toList.flatMap writeChar ++ ['"'])

end JsonToken
end SealingProxy

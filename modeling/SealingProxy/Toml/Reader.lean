/-! # Reading TOML piece by piece

A reader takes a piece off the start of a text and returns what it means and what follows. What
follows is always shorter, so that reading piece after piece ends. This module holds the readers
that others are composed of: blanks, comments and lists. -/

namespace SealingProxy.Toml

/-- What is left of a text after a piece was taken off it. -/
abbrev Rest (s : List Char) := { r : List Char // r.length < s.length }

def Rest.cons {c : Char} {s : List Char} (r : Rest s) : Rest (c :: s) :=
  ⟨r.1, Nat.lt_succ_of_lt r.2⟩

theorem length_le_self (s : List Char) : s.length ≤ s.length :=
  Nat.le_refl _

abbrev Reader (α : Type) := (s : List Char) → Option (α × Rest s)

def isBlank (c : Char) : Bool :=
  c == ' ' || c == '\t'

def skipBlanks (s : List Char) : List Char :=
  s.dropWhile isBlank

/-- A character that may stand in a comment: a tab, or anything that is no control. -/
def isCommentChar (c : Char) : Bool :=
  c == '\t' || (0x20 ≤ c.toNat && c.toNat != 0x7F)

def lineEnd? : List Char → Option (List Char)
  | '\n' :: s => some s
  | '\r' :: '\n' :: s => some s
  | _ => none

def skipComment : List Char → List Char
  | '#' :: s => s.dropWhile isCommentChar
  | s => s

def skipLineRest (s : List Char) : List Char :=
  skipComment (skipBlanks s)

theorem length_skipBlanks_le (s : List Char) : (skipBlanks s).length ≤ s.length :=
  (List.dropWhile_suffix _).length_le

theorem length_skipComment_le (s : List Char) : (skipComment s).length ≤ s.length := by
  unfold skipComment
  split
  · exact Nat.le_succ_of_le (List.dropWhile_suffix _).length_le
  · exact Nat.le_refl _

theorem length_skipLineRest_le (s : List Char) : (skipLineRest s).length ≤ s.length :=
  Nat.le_trans (length_skipComment_le _) (length_skipBlanks_le _)

theorem length_lt_of_lineEnd? {s r : List Char} (h : lineEnd? s = some r) :
    r.length < s.length := by
  unfold lineEnd? at h
  split at h <;> cases h <;> simp only [List.length_cons] <;> omega

def skipLines (s : List Char) : List Char :=
  match _h : lineEnd? (skipLineRest s) with
  | none => skipLineRest s
  | some r => skipLines r
termination_by s.length
decreasing_by
  exact Nat.lt_of_lt_of_le (length_lt_of_lineEnd? _h) (length_skipLineRest_le s)

theorem length_skipLines_le (s : List Char) : (skipLines s).length ≤ s.length := by
  fun_induction skipLines s with
  | case1 s _ => exact length_skipLineRest_le s
  | case2 s r h ih =>
    exact Nat.le_trans ih
      (Nat.le_of_lt (Nat.lt_of_lt_of_le (length_lt_of_lineEnd? h) (length_skipLineRest_le s)))

structure Padding where
  skip : List Char → List Char
  length_skip_le : ∀ s, (skip s).length ≤ s.length

def Padding.blanks : Padding := ⟨skipBlanks, length_skipBlanks_le⟩

def Padding.lines : Padding := ⟨skipLines, length_skipLines_le⟩

/-- The items up to a closing mark, with commas between them; the items before them are given, the
last one first. A comma after the last item is accepted if `trailing` says so. -/
def itemsFrom? {α : Type} (item : Reader α) (padding : Padding) (close : Char) (trailing : Bool)
    (whole : List Char) (before : List α) (s : List Char) (h : s.length ≤ whole.length) :
    Option (List α × Rest whole) :=
  match item (padding.skip s) with
  | none => none
  | some (a, ⟨r, hr⟩) =>
    have h₁ := padding.length_skip_le s
    match padding.skip r, padding.length_skip_le r with
    | [], _ => none
    | c :: t, (h₂ : t.length < r.length) =>
      if c = close then some ((a :: before).reverse, ⟨t, by omega⟩)
      else if c = ',' then
        match padding.skip t, padding.length_skip_le t with
        | [], _ => none
        | d :: u, (h₃ : u.length < t.length) =>
          if d = close ∧ trailing then some ((a :: before).reverse, ⟨u, by omega⟩)
          else itemsFrom? item padding close trailing whole (a :: before) t (by omega)
      else none
termination_by s.length

def items? {α : Type} (item : Reader α) (padding : Padding) (close : Char) (trailing : Bool) :
    Reader (List α) :=
  fun s => itemsFrom? item padding close trailing s [] s (length_le_self s)

end SealingProxy.Toml

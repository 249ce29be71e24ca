import SealingProxy.Toml.Scalar
/-! # TOML documents

A document is a sequence of lines that open tables and give members to them. A table is defined
once: by a header, by dotted keys, or in braces. -/

namespace SealingProxy.Toml
open Text

abbrev Members := List (String × Toml)

def isBareKeyChar (c : Char) : Bool :=
  c.isAlphanum || c == '_' || c == '-'

/-- One part of a key, bare or in quotes of one line. -/
def keyPart? : Reader String
  | '"' :: r =>
    (basicRest? r).map fun p => (String.ofList p.1, Rest.cons p.2)
  | '\'' :: r =>
    (literalRest? r).map fun p => (String.ofList p.1, Rest.cons p.2)
  | [] => none
  | c :: r =>
    if isBareKeyChar c then
      some (String.ofList (c :: r.takeWhile isBareKeyChar), ⟨r.dropWhile isBareKeyChar,
        Nat.lt_succ_of_le (List.dropWhile_suffix _).length_le⟩)
    else none

def maxDepth : Nat := 79

/-- A key from after some of its parts on: parts with dots between them. Those before are given,
the last one first. -/
def keyFrom? (whole : List Char) (before : List String) (s : List Char)
    (h : s.length ≤ whole.length) : Option (List String × Rest whole) :=
  match keyPart? (skipBlanks s) with
  | none => none
  | some (k, ⟨r, hr⟩) =>
    have h₁ := length_skipBlanks_le s
    have h₂ := length_skipBlanks_le r
    match hd : skipBlanks r with
    | '.' :: t =>
      have h₃ : t.length < r.length := by
        rw [hd] at h₂
        exact h₂
      keyFrom? whole (k :: before) t (by omega)
    | u => some ((k :: before).reverse, ⟨u, by rw [hd] at h₂; omega⟩)
termination_by s.length

/-- A key. It leads through tables, so that it may have no more parts than tables may be nested. -/
def key? : Reader (List String) := fun s =>
  (keyFrom? s [] s (length_le_self s)).filter fun p => p.1.length ≤ maxDepth

/-- Gives a member a value by a path of names. The table it goes into has to be of dotted keys, and
those on the way have to be ones that may be entered. Of an array of tables the last one is
entered. -/
def assignIn (canEnter : TableOrigin → Bool) (members : Members) : List String → Toml →
    Option Members
  | [], _ => none
  | [k], v => if (Fields.get? members k).isSome then none else some (Fields.insert members k v)
  | k :: l :: ks, v =>
    match Fields.get? members k with
    | none =>
      (assignIn canEnter [] (l :: ks) v).map fun m => Fields.insert members k (.table .dotted m)
    | some (.table o m) =>
      if canEnter o && (o == .dotted || !ks.isEmpty) then
        (assignIn canEnter m (l :: ks) v).map fun m => Fields.insert members k (.table o m)
      else none
    | some (.tables (t :: ts)) =>
      if ks.isEmpty then none
      else (assignIn canEnter t (l :: ks) v).map fun t =>
        Fields.insert members k (.tables (t :: ts))
    | some _ => none

def braced? (pairs : List (List String × Toml)) : Option Toml :=
  (pairs.foldlM (fun m p => assignIn (· == .dotted) m p.1 p.2) []).map (.table .inline)

def pair? (value : Reader Toml) : Reader (List String × Toml) := fun s =>
  match key? s with
  | some (k, ⟨'=' :: r, hr⟩) =>
    (value (skipBlanks r)).map fun p => ((k, p.1), ⟨p.2.1, by
      have h₁ := p.2.2
      have h₂ := length_skipBlanks_le r
      rw [List.length_cons] at hr
      omega⟩)
  | _ => none

def enclosed? {α : Type} (item : Reader α) (padding : Padding) (close : Char) (trailing : Bool)
    (s : List Char) : Option (List α × Rest s) :=
  match padding.skip s, padding.length_skip_le s with
  | [], _ => none
  | c :: t, (h : t.length < s.length) =>
    if c = close then some ([], ⟨t, h⟩)
    else (items? item padding close trailing (c :: t)).map fun p =>
      (p.1, ⟨p.2.1, Nat.lt_of_le_of_lt (Nat.le_of_lt_succ p.2.2) h⟩)

/-- A value, with arrays and tables nested no deeper than the given number. -/
def value? (depth : Nat) : Reader Toml
  | '[' :: r =>
    match depth with
    | 0 => none
    | n + 1 => (enclosed? (value? n) .lines ']' true r).map fun p => (.array p.1, Rest.cons p.2)
  | '\x7b' :: r =>
    match depth with
    | 0 => none
    | n + 1 =>
      match enclosed? (pair? (value? n)) .blanks '\x7d' false r with
      | none => none
      | some (pairs, t) => (braced? pairs).map (·, Rest.cons t)
  | s =>
    match quoted? s with
    | some (cs, r) => some (.string (String.ofList cs), r)
    | none => scalar? s

inductive Line where
  | member (key : List String) (value : Toml)
  /-- The header of a table. -/
  | table (key : List String)
  /-- The header of one more table of an array. -/
  | element (key : List String)

def line? : Reader Line
  | '[' :: '[' :: r =>
    match key? r with
    | some (k, ⟨']' :: ']' :: t, h⟩) => some (.element k, ⟨t, by
        simp only [List.length_cons] at *
        omega⟩)
    | _ => none
  | '[' :: r =>
    match key? r with
    | some (k, ⟨']' :: t, h⟩) => some (.table k, ⟨t, by
        simp only [List.length_cons] at *
        omega⟩)
    | _ => none
  | s => (pair? (value? maxDepth) s).map fun p => (.member p.1.1 p.1.2, p.2)

/-- The lines of a document, those before the text given, the last one first. -/
def linesAfter (before : List Line) (s : List Char) : Option (List Line) :=
  match _h : skipLines s with
  | [] => some before.reverse
  | c :: t =>
    match line? (c :: t) with
    | none => none
    | some (l, ⟨r, _hr⟩) =>
      match _hl : lineEnd? (skipLineRest r) with
      | none => if (skipLineRest r).isEmpty then some (l :: before).reverse else none
      | some u => linesAfter (l :: before) u
termination_by s.length
decreasing_by
  have h₁ := length_skipLines_le s
  have h₂ := length_lt_of_lineEnd? _hl
  have h₃ := length_skipLineRest_le r
  rw [_h] at h₁
  omega

def lines (s : List Char) : Option (List Line) :=
  linesAfter [] s

/-- Changes the table at a path of names, where tables that do not exist yet are implied. Of an
array of tables the last one is meant. -/
def changeAt (change : Members → Option Members) : List String → Members → Option Members
  | [], m => change m
  | k :: ks, m =>
    match Fields.get? m k with
    | none => (changeAt change ks []).map fun t => Fields.insert m k (.table .implied t)
    | some (.table o t) =>
      if o = .inline then none
      else (changeAt change ks t).map fun t => Fields.insert m k (.table o t)
    | some (.tables (t :: ts)) =>
      (changeAt change ks t).map fun t => Fields.insert m k (.tables (t :: ts))
    | some _ => none

/-- Opens a table. One that a header only implied so far may still be opened. -/
def openTable (name : String) (m : Members) : Option Members :=
  match Fields.get? m name with
  | none => some (Fields.insert m name (.table .header []))
  | some (.table .implied t) => some (Fields.insert m name (.table .header t))
  | some _ => none

def openElement (name : String) (m : Members) : Option Members :=
  match Fields.get? m name with
  | none => some (Fields.insert m name (.tables [[]]))
  | some (.tables ts) => some (Fields.insert m name (.tables ([] :: ts)))
  | some _ => none

/-- A document as far as it was read: its members, and the path of the open table. -/
structure Draft where
  root : Members := []
  current : List String := []

def Draft.add (d : Draft) : Line → Option Draft
  | .member k v =>
    (changeAt (assignIn (fun o => o == .dotted || o == .implied) · k v) d.current d.root).map
      ({ d with root := · })
  | .table k =>
    match k.getLast? with
    | none => none
    | some name => (changeAt (openTable name) k.dropLast d.root).map (⟨·, k⟩)
  | .element k =>
    match k.getLast? with
    | none => none
    | some name => (changeAt (openElement name) k.dropLast d.root).map (⟨·, k⟩)

/-- Reads a document. A byte order mark at its start is passed over. -/
def read? (s : String) : Option Members :=
  match lines ((dropStart? ['\uFEFF'] s.toList).getD s.toList) with
  | none => none
  | some ls => (ls.foldlM Draft.add {}).map (·.root)

end SealingProxy.Toml

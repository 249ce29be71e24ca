import SealingProxy.Multipart.Boundary
import SealingProxy.Text.Utf8
/-! # Delimiter lines

A delimiter starts a line and is followed by two hyphens, a line end, a blank, or nothing; after
two hyphens it closes the body. What lies between delimiter lines, up to the first closing one, are
the parts. The line break before a delimiter belongs to it and not to the part. -/

namespace SealingProxy.Delimiter

def ofBoundary (boundary : String) : Bytes :=
  utf8 ("--" ++ boundary)

def mayFollow : Bytes → Bool
  | [] => true
  | 45 :: 45 :: _ => true
  | b :: _ => b == 13 || b == 10 || b == 32 || b == 9

def isAt (delimiter s : Bytes) : Bool :=
  match Text.dropStart? delimiter s with
  | some rest => mayFollow rest
  | none => false

/-- The octets from the first delimiter line on, if there is one. They start with a line. -/
def find? (delimiter s : Bytes) : Option Bytes :=
  if isAt delimiter s then some s
  else match _h : s.afterLine with
    | none => none
    | some rest => find? delimiter rest
termination_by s.length
decreasing_by exact Bytes.length_lt_of_afterLine _h

theorem length_le_of_find? {d s r : Bytes} (h : find? d s = some r) : r.length ≤ s.length := by
  fun_induction find? d s with
  | case1 => cases h; exact Nat.le_refl _
  | case2 => cases h
  | case3 s _ rest hrest ih =>
    exact Nat.le_trans (ih h) (Nat.le_of_lt (Bytes.length_lt_of_afterLine hrest))

def isClosing (after : Bytes) : Bool :=
  [45, 45].isPrefixOf after

/-- The octets of `s` before its end `rest`. -/
def before (s rest : Bytes) : Bytes :=
  s.take (s.length - rest.length)

def partsFrom (delimiter s : Bytes) : Except MultipartError (List Bytes) :=
  if isClosing (s.drop delimiter.length) then .ok []
  else match _h : Bytes.afterLine (s.drop delimiter.length) with
    | none => .error .unexpectedEnd
    | some content =>
      match _h' : find? delimiter content with
      | none => .error .unexpectedEnd
      | some next =>
        (partsFrom delimiter next).map (Bytes.dropLineEnd (before content next) :: ·)
termination_by s.length
decreasing_by
  have h₁ := Bytes.length_lt_of_afterLine _h
  have h₂ := length_le_of_find? _h'
  simp only [List.length_drop] at h₁
  omega

def parts (delimiter body : Bytes) : Except MultipartError (List Bytes) :=
  match find? delimiter body with
  | none => .error .missingDelimiter
  | some s => partsFrom delimiter s

end SealingProxy.Delimiter

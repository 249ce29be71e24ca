/-! # Cutting at a separator

`cut` divides a list at the first occurrence of a separator, `cutLast` at the last one, and
`pieces` at all of them. None of them loses anything: joining the parts with the separator gives
the list back. -/

namespace SealingProxy.Text

variable {α : Type} [DecidableEq α]

/-- The part before the first `c` and the part after it, if `c` occurs. -/
def cut (c : α) (s : List α) : Option (List α × List α) :=
  match s.dropWhile (· != c) with
  | [] => none
  | _ :: rest => some (s.takeWhile (· != c), rest)

def cutLast (c : α) (s : List α) : Option (List α × List α) :=
  (cut c s.reverse).map fun p => (p.2.reverse, p.1.reverse)

/-- The parts between the occurrences of `c`. There is always at least one. -/
def pieces (c : α) : List α → List (List α)
  | [] => [[]]
  | a :: s =>
    if a = c then [] :: pieces c s
    else match pieces c s with
      | [] => [[a]]
      | p :: ps => (a :: p) :: ps

def dropStart? : List α → List α → Option (List α)
  | [], s => some s
  | _ :: _, [] => none
  | a :: p, b :: s => if a = b then dropStart? p s else none

theorem pieces_ne_nil (c : α) (s : List α) : pieces c s ≠ [] := by
  cases s with
  | nil => simp [pieces]
  | cons a s =>
    simp only [pieces]
    split
    · simp
    · split <;> simp

theorem dropStart?_eq_some_iff {p s r : List α} : dropStart? p s = some r ↔ s = p ++ r := by
  induction p generalizing s with
  | nil => simp [dropStart?]
  | cons a p ih =>
    cases s with
    | nil => simp [dropStart?]
    | cons b s =>
      by_cases h : a = b
      · subst h; simp [dropStart?, ih]
      · simp [dropStart?, h, Ne.symm h]

theorem cut_eq_some {c : α} {s l r : List α} (h : cut c s = some (l, r)) :
    s = l ++ c :: r ∧ c ∉ l := by
  unfold cut at h
  split at h
  · cases h
  · next a rest heq =>
    cases h
    have hs := List.takeWhile_append_dropWhile (p := (· != c)) (l := s)
    have ha : a = c := by
      have := List.head?_dropWhile_not (· != c) s
      rw [heq] at this
      simpa using this
    subst ha
    rw [heq] at hs
    refine ⟨hs.symm, fun hm => ?_⟩
    have := List.all_takeWhile (p := (· != a)) (l := s)
    rw [List.all_eq_true] at this
    simpa using this _ hm

end SealingProxy.Text

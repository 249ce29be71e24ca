import Mathlib.Data.List.Basic
import Mathlib.Data.Nat.Init
import SealingProxy.Proofs.DelimiterLines
/-! # The grammar of delimiter lines

Which octets of a body are its parts is told here by indices alone: where delimiter lines start, which
of them close the body, and what lies between one and the next. The search goes from one line feed
to the next, and leaves out no index at which a line starts. -/

namespace SealingProxy

namespace Bytes

def StartsLine (body : Bytes) (i : Nat) : Prop := i = 0 ∨ body[i - 1]? = some lineFeed

instance (body : Bytes) (i : Nat) : Decidable (StartsLine body i) :=
  inferInstanceAs (Decidable (_ ∨ _))

/-- The index behind the first line feed from `i` on. If there is none, it is behind the end. -/
def nextLine (body : Bytes) (i : Nat) : Nat :=
  i + (body.drop i).idxOf lineFeed + 1

variable {body : Bytes} {i : Nat}

theorem afterLine_eq (s : Bytes) :
    s.afterLine = if lineFeed ∈ s then some (s.drop (s.idxOf lineFeed + 1)) else none := by
  split
  · next h =>
    obtain ⟨u, t, rfl, hu⟩ := List.eq_append_cons_of_mem h
    rw [afterLine_append hu, List.idxOf_append_of_notMem hu, List.idxOf_cons_self]
    simp
  · next h => exact afterLine_eq_none_iff.2 h

theorem nextLine_le_iff (hi : i ≤ body.length) :
    nextLine body i ≤ body.length ↔ lineFeed ∈ body.drop i := by
  rw [← List.idxOf_lt_length_iff, List.length_drop, nextLine]
  omega

/-- What follows a line feed starts at the next line. -/
theorem afterLine_drop (hi : i ≤ body.length) :
    afterLine (body.drop i) =
      if nextLine body i ≤ body.length then some (body.drop (nextLine body i)) else none := by
  rw [afterLine_eq, List.drop_drop, ← Nat.add_assoc]
  simp only [nextLine_le_iff hi]
  rfl

theorem startsLine_nextLine (hi : i ≤ body.length) (h : nextLine body i ≤ body.length) :
    StartsLine body (nextLine body i) := by
  have hmem := (nextLine_le_iff hi).1 h
  have hget := List.getElem?_idxOf hmem
  rw [List.getElem?_drop] at hget
  exact .inr hget

/-- No line starts between an index and the next line. -/
theorem not_startsLine_of_lt {k : Nat} (hik : i < k) (hk : k < nextLine body i) :
    ¬StartsLine body k := by
  rintro (rfl | hget)
  · omega
  · have hlt : k - 1 - i < (body.drop i).idxOf lineFeed := by
      rw [nextLine] at hk
      omega
    have hne := List.not_of_lt_findIdx hlt
    have hat : (body.drop i)[k - 1 - i]? = some lineFeed := by
      rw [List.getElem?_drop, ← hget]
      congr 1
      omega
    obtain ⟨hbound, hat⟩ := List.getElem?_eq_some_iff.1 hat
    simp [hat] at hne

end Bytes

namespace Delimiter
open Bytes

/-- A delimiter line starts at the index: a line starts there, and the delimiter with something behind
it that makes a delimiter line. -/
def IsLineAt (d body : Bytes) (i : Nat) : Prop :=
  StartsLine body i ∧ IsLine d (body.drop i)

instance (d s : Bytes) : Decidable (IsLine d s) :=
  decidable_of_iff _ isAt_iff

instance (d body : Bytes) (i : Nat) : Decidable (IsLineAt d body i) :=
  inferInstanceAs (Decidable (_ ∧ _))

def IsClosingAt (d body : Bytes) (i : Nat) : Prop :=
  [45, 45] <+: body.drop (i + d.length)

instance (d body : Bytes) (i : Nat) : Decidable (IsClosingAt d body i) :=
  inferInstanceAs (Decidable (_ <+: _))

def linesFrom (d body : Bytes) (i : Nat) : List Nat :=
  (List.range' i (body.length + 1 - i)).filter fun k => IsLineAt d body k

def lines (d body : Bytes) : List Nat :=
  (List.range (body.length + 1)).filter fun i => IsLineAt d body i

/-- What lies between a delimiter line and the next one, without one line break at the end. It starts
behind the line feed that ends the delimiter line. -/
def region (d body : Bytes) (i next : Nat) : Bytes :=
  dropLineEnd ((body.take next).drop (nextLine body (i + d.length)))

variable {d body : Bytes} {i p q : Nat}

theorem lines_eq_linesFrom (d body : Bytes) : lines d body = linesFrom d body 0 := by
  rw [lines, linesFrom, List.range_eq_range', Nat.sub_zero]

/-! ## From one line to the next -/

theorem linesFrom_of_isLineAt (hi : i ≤ body.length) (h : IsLineAt d body i) :
    linesFrom d body i = i :: linesFrom d body (i + 1) := by
  have hlen : body.length + 1 - i = body.length + 1 - (i + 1) + 1 := by omega
  rw [linesFrom, hlen, List.range'_succ, List.filter_cons_of_pos (by simpa using h)]
  rfl

theorem linesFrom_of_not_isLineAt (h : ¬IsLineAt d body i) :
    linesFrom d body i = linesFrom d body (i + 1) := by
  by_cases hi : i ≤ body.length
  · have hlen : body.length + 1 - i = body.length + 1 - (i + 1) + 1 := by omega
    rw [linesFrom, hlen, List.range'_succ, List.filter_cons_of_neg (by simpa using h)]
    rfl
  · simp [linesFrom, show body.length + 1 - i = 0 by omega,
      show body.length + 1 - (i + 1) = 0 by omega]

theorem linesFrom_of_length_lt (h : body.length < i) : linesFrom d body i = [] := by
  simp [linesFrom, show body.length + 1 - i = 0 by omega]

/-- Indices at which no delimiter line starts may be left out. -/
theorem linesFrom_skip (hip : i ≤ p) (h : ∀ k, i ≤ k → k < p → ¬IsLineAt d body k) :
    linesFrom d body i = linesFrom d body p := by
  induction p, hip using Nat.le_induction with
  | base => rfl
  | succ p hip ih =>
    rw [ih fun k hik hkp => h k hik (by omega)]
    exact linesFrom_of_not_isLineAt (h p hip (by omega))

theorem linesFrom_succ (d body : Bytes) (i : Nat) :
    linesFrom d body (i + 1) = linesFrom d body (nextLine body i) := by
  refine linesFrom_skip (by simp [nextLine]) fun k hik hk hline => ?_
  exact not_startsLine_of_lt (by omega) hk hline.1

theorem of_linesFrom_eq_cons {l : List Nat} (h : linesFrom d body i = q :: l) :
    linesFrom d body q = q :: l ∧ IsLineAt d body q ∧ i ≤ q ∧ q ≤ body.length := by
  induction hn : body.length + 1 - i generalizing i with
  | zero =>
    rw [linesFrom_of_length_lt (by omega)] at h
    cases h
  | succ n ih =>
    by_cases hline : IsLineAt d body i
    · have hi : i ≤ body.length := by omega
      have hcons := h
      rw [linesFrom_of_isLineAt hi hline] at hcons
      obtain ⟨rfl, -⟩ := List.cons.inj hcons
      exact ⟨h, hline, Nat.le_refl _, hi⟩
    · rw [linesFrom_of_not_isLineAt hline] at h
      obtain ⟨htail, hq, hle, hlen⟩ := ih h (by omega)
      exact ⟨htail, hq, by omega, hlen⟩

/-- The search from the start of a line on finds the next delimiter line. -/
theorem find?_drop (hi : i ≤ body.length) (hs : StartsLine body i) :
    find? d (body.drop i) = (linesFrom d body i).head?.map body.drop := by
  induction hn : body.length - i using Nat.strong_induction_on generalizing i with
  | _ n ih =>
    by_cases hline : IsLine d (body.drop i)
    · rw [find?_of_isLine hline, linesFrom_of_isLineAt hi ⟨hs, hline⟩]
      rfl
    · rw [linesFrom_of_not_isLineAt (mt And.right hline), linesFrom_succ]
      have hafter := afterLine_drop hi
      split at hafter
      · next hle =>
        have hlt : i < nextLine body i := by
          rw [nextLine]
          omega
        rw [find?_of_afterLine hline hafter]
        exact ih _ (by omega) hle (startsLine_nextLine hi hle) rfl
      · next hle =>
        have hnone : ¬HasLine d (body.drop i) := by
          rwa [hasLine_iff_of_not_mem (afterLine_eq_none_iff.1 hafter)]
        rw [find?_eq_none_iff.2 hnone, linesFrom_of_length_lt (by omega)]
        rfl

/-- A delimiter holds no line feed, so that the next delimiter line is not before the line feed that
ends this one. -/
theorem linesFrom_of_isLineAt_nextLine (hd : lineFeed ∉ d) (hi : i ≤ body.length)
    (h : IsLineAt d body i) :
    linesFrom d body i = i :: linesFrom d body (nextLine body (i + d.length)) := by
  have hnext : nextLine body i = nextLine body (i + d.length) := by
    obtain ⟨-, after, hafter, -⟩ := h
    rw [nextLine, nextLine, ← List.drop_drop, hafter, List.drop_left,
      List.idxOf_append_of_notMem hd]
    omega
  rw [linesFrom_of_isLineAt hi h, linesFrom_succ, hnext]

theorem IsLineAt.add_length_le (hi : i ≤ body.length) (h : IsLineAt d body i) :
    i + d.length ≤ body.length := by
  obtain ⟨-, after, hafter, -⟩ := h
  have hlen := congrArg List.length hafter
  simp only [List.length_drop, List.length_append] at hlen
  omega

/-! ## Cutting along lines -/

def cutAlong (d body : Bytes) : List Nat → Except MultipartError (List Bytes)
  | [] => .error .missingDelimiter
  | [i] => if IsClosingAt d body i then .ok [] else .error .unexpectedEnd
  | i :: next :: rest =>
    if IsClosingAt d body i then .ok []
    else (cutAlong d body (next :: rest)).map (region d body i next :: ·)

theorem before_drop (hp : i ≤ p) (hlen : p ≤ body.length) :
    before (body.drop i) (body.drop p) = (body.take p).drop i := by
  rw [before, List.drop_take, List.length_drop, List.length_drop]
  congr 1
  omega

theorem isClosing_drop_iff :
    isClosing ((body.drop i).drop d.length) ↔ IsClosingAt d body i := by
  rw [isClosing, IsClosingAt, List.drop_drop, List.isPrefixOf_iff_prefix]

theorem partsFrom_of_afterLine_eq_none {s : Bytes} (h : ¬isClosing (s.drop d.length))
    (hc : afterLine (s.drop d.length) = none) : partsFrom d s = .error .unexpectedEnd := by
  rw [partsFrom, if_neg h]
  split
  · rfl
  · next hc' => rw [hc] at hc'; cases hc'

theorem partsFrom_of_find?_eq_none {s content : Bytes} (h : ¬isClosing (s.drop d.length))
    (hc : afterLine (s.drop d.length) = some content) (hn : find? d content = none) :
    partsFrom d s = .error .unexpectedEnd := by
  rw [partsFrom, if_neg h]
  split
  · rfl
  · next hc' =>
    obtain rfl := Option.some.inj (hc.symm.trans hc')
    split
    · rfl
    · next hn' => rw [hn] at hn'; cases hn'

/-- Cutting at one delimiter line after the other is cutting along all of them. -/
theorem partsFrom_drop (hd : lineFeed ∉ d) {l : List Nat} (h : linesFrom d body i = i :: l) :
    partsFrom d (body.drop i) = cutAlong d body (i :: l) := by
  induction l generalizing i with
  | nil =>
    obtain ⟨-, hline, -, hi⟩ := of_linesFrom_eq_cons h
    have hstop := hline.add_length_le hi
    by_cases hclosing : IsClosingAt d body i
    · rw [partsFrom_of_closing (isClosing_drop_iff.2 hclosing), cutAlong, if_pos hclosing]
    · rw [linesFrom_of_isLineAt_nextLine hd hi hline] at h
      have hopen := mt isClosing_drop_iff.1 hclosing
      have hafter := afterLine_drop hstop
      rw [← List.drop_drop] at hafter
      rw [cutAlong, if_neg hclosing]
      split at hafter
      · next hle =>
        refine partsFrom_of_find?_eq_none hopen hafter ?_
        rw [find?_drop hle (startsLine_nextLine hstop hle), (List.cons.inj h).2]
        rfl
      · exact partsFrom_of_afterLine_eq_none hopen hafter
  | cons next rest ih =>
    obtain ⟨-, hline, -, hi⟩ := of_linesFrom_eq_cons h
    have hstop := hline.add_length_le hi
    by_cases hclosing : IsClosingAt d body i
    · rw [partsFrom_of_closing (isClosing_drop_iff.2 hclosing), cutAlong, if_pos hclosing]
    · rw [linesFrom_of_isLineAt_nextLine hd hi hline] at h
      have hrest := (List.cons.inj h).2
      obtain ⟨hnext, -, hle, hlen⟩ := of_linesFrom_eq_cons hrest
      have hcontent : nextLine body (i + d.length) ≤ body.length := Nat.le_trans hle hlen
      have hafter := afterLine_drop hstop
      rw [← List.drop_drop, if_pos hcontent] at hafter
      have hfind : find? d (body.drop (nextLine body (i + d.length))) = some (body.drop next) := by
        rw [find?_drop hcontent (startsLine_nextLine hstop hcontent), hrest]
        rfl
      rw [partsFrom_of_find? (mt isClosing_drop_iff.1 hclosing) hafter hfind, cutAlong,
        if_neg hclosing, ih hnext, before_drop hle hlen]
      rfl

theorem parts_eq_cutAlong (hd : lineFeed ∉ d) (body : Bytes) :
    parts d body = cutAlong d body (lines d body) := by
  have hfind : find? d (body.drop 0) = (linesFrom d body 0).head?.map body.drop :=
    find?_drop (Nat.zero_le _) (.inl rfl)
  rw [List.drop_zero, ← lines_eq_linesFrom] at hfind
  unfold parts
  rw [hfind]
  cases hlines : lines d body with
  | nil => rfl
  | cons i l =>
    rw [lines_eq_linesFrom] at hlines
    exact partsFrom_drop hd (of_linesFrom_eq_cons hlines).1

theorem cutAlong_of_closing {l : List Nat} (h : ∃ i ∈ l, IsClosingAt d body i) :
    cutAlong d body l =
      .ok (List.zipWith (region d body) (l.takeWhile fun i => ¬IsClosingAt d body i) l.tail) := by
  induction l with
  | nil => simp at h
  | cons i l ih =>
    by_cases hclosing : IsClosingAt d body i
    · rw [List.takeWhile_cons_of_neg (by simpa using hclosing), List.zipWith_nil_left]
      cases l <;> rw [cutAlong, if_pos hclosing]
    · obtain ⟨k, hk, hkclosing⟩ := h
      have hkl : k ∈ l := (List.mem_cons.1 hk).resolve_left fun hki => hclosing (hki ▸ hkclosing)
      rw [List.takeWhile_cons_of_pos (by simpa using hclosing)]
      cases l with
      | nil => simp at hkl
      | cons next rest =>
        rw [cutAlong, if_neg hclosing, ih ⟨k, hkl, hkclosing⟩]
        rfl

theorem cutAlong_of_open {l : List Nat} (hl : l ≠ []) (h : ∀ i ∈ l, ¬IsClosingAt d body i) :
    cutAlong d body l = .error .unexpectedEnd := by
  induction l with
  | nil => exact absurd rfl hl
  | cons i l ih =>
    obtain ⟨hi, hrest⟩ := List.forall_mem_cons.1 h
    cases l with
    | nil => rw [cutAlong, if_neg hi]
    | cons next rest =>
      rw [cutAlong, if_neg hi, ih (by simp) hrest]
      rfl

end Delimiter
end SealingProxy

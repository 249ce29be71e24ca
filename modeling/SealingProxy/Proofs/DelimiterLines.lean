import Mathlib.Tactic.Tauto
import SealingProxy.Multipart.Delimiter
/-! # Delimiter lines

What a delimiter line is, said without the search for one: a delimiter at the start of the octets
or after a line feed, with two hyphens, a line end, a blank or nothing behind it. The search finds
the first such line, and no part that is cut out of a body holds one. A line break before octets
without a delimiter line leaves the search to what follows; this is how bodies that were composed
are taken apart again. -/

namespace SealingProxy

namespace Bytes

/-- A line starts behind the octets: there are none, or the last one is a line feed. -/
def EndsLine (s : Bytes) : Prop := s = [] ∨ ∃ t, s = t ++ [lineFeed]

theorem EndsLine.append {s t : Bytes} (hs : s.EndsLine) (ht : t.EndsLine) : (s ++ t).EndsLine := by
  rcases ht with rfl | ⟨t, rfl⟩
  · simpa using hs
  · exact .inr ⟨s ++ t, (List.append_assoc ..).symm⟩

theorem afterLine_append {u : Bytes} (h : lineFeed ∉ u) (t : Bytes) :
    afterLine (u ++ lineFeed :: t) = some t := by
  have hu : ∀ b ∈ u, (b != lineFeed) = true := by
    intro b hb
    simp only [bne_iff_ne, ne_eq]
    rintro rfl
    exact h hb
  rw [afterLine, List.dropWhile_append_of_pos hu]
  simp

theorem eq_append_of_afterLine {s r : Bytes} (h : s.afterLine = some r) :
    ∃ u, lineFeed ∉ u ∧ s = u ++ lineFeed :: r := by
  have hcut : Text.cut lineFeed s = some (s.takeWhile (· != lineFeed), r) := by
    unfold afterLine at h
    unfold Text.cut
    split at h
    · cases h
    · next heq =>
      cases h
      rw [heq]
  exact ⟨_, (Text.cut_eq_some hcut).2, (Text.cut_eq_some hcut).1⟩

theorem afterLine_eq_none_iff {s : Bytes} : s.afterLine = none ↔ lineFeed ∉ s := by
  constructor
  · intro h hm
    obtain ⟨u, t, rfl, hu⟩ := List.eq_append_cons_of_mem hm
    rw [afterLine_append hu] at h
    cases h
  · intro h
    cases ha : s.afterLine with
    | none => rfl
    | some r =>
      obtain ⟨u, -, rfl⟩ := eq_append_of_afterLine ha
      exact absurd (by simp) h

def IsLineEnd (e : Bytes) : Prop := e = [lineFeed] ∨ e = [carriageReturn, lineFeed]

@[simp] theorem isLineEnd_crlf : IsLineEnd [13, 10] := .inr rfl

theorem IsLineEnd.afterLine_append {e : Bytes} (he : IsLineEnd e) {u : Bytes} (hu : lineFeed ∉ u)
    (t : Bytes) : afterLine (u ++ (e ++ t)) = some t := by
  rcases he with rfl | rfl
  · exact Bytes.afterLine_append hu t
  · have hu' : lineFeed ∉ u ++ [carriageReturn] := by simpa [lineFeed, carriageReturn] using hu
    simpa using Bytes.afterLine_append hu' t

@[simp] theorem dropLineEnd_append_crlf (u : Bytes) : dropLineEnd (u ++ [13, 10]) = u := by
  simp [dropLineEnd]

theorem dropLineEnd_concat_of_ne {b : UInt8} (h : b ≠ lineFeed) (s : Bytes) :
    dropLineEnd (s ++ [b]) = s ++ [b] := by
  rw [dropLineEnd, List.reverse_append]
  split
  · next heq => exact absurd (List.cons.inj heq).1 h
  · next heq => exact absurd (List.cons.inj heq).1 h
  · rfl

theorem dropLineEnd_concat_lineFeed_of_ne {b : UInt8} (h : b ≠ carriageReturn) (s : Bytes) :
    dropLineEnd (s ++ [b] ++ [lineFeed]) = s ++ [b] := by
  rw [dropLineEnd, List.reverse_append, List.reverse_append]
  split
  · next heq => exact absurd (List.cons.inj (List.cons.inj heq).2).1 h
  · next heq =>
    obtain rfl := (List.cons.inj heq).2
    simp
  · next hne => exact absurd rfl (hne _)

/-- Octets that end with a line lose exactly one line break. -/
theorem dropLineEnd_append_lineFeed (t : Bytes) :
    ∃ e, IsLineEnd e ∧ t ++ [lineFeed] = dropLineEnd (t ++ [lineFeed]) ++ e := by
  rcases List.eq_nil_or_concat t with rfl | ⟨t, b, rfl⟩
  · exact ⟨[lineFeed], .inl rfl, rfl⟩
  · by_cases hb : b = carriageReturn
    · subst hb
      refine ⟨[carriageReturn, lineFeed], .inr rfl, ?_⟩
      simp [dropLineEnd, carriageReturn, lineFeed]
    · refine ⟨[lineFeed], .inl rfl, ?_⟩
      rw [List.concat_eq_append, dropLineEnd_concat_lineFeed_of_ne hb]

end Bytes

namespace Delimiter
open Bytes

/-- What stands behind a delimiter that makes a line: two hyphens, a carriage return, a line feed,
a space, a tab, or nothing. -/
def Follows (after : Bytes) : Prop :=
  after = [] ∨ [45, 45] <+: after ∨ ∃ b ∈ [13, 10, 32, 9], [b] <+: after

/-- The octets start with a delimiter line, if a line starts there. -/
def IsLine (delimiter s : Bytes) : Prop :=
  ∃ after, s = delimiter ++ after ∧ Follows after

/-- A delimiter line starts somewhere in the octets: at their start or after a line feed. -/
def HasLine (delimiter s : Bytes) : Prop :=
  ∃ before rest, s = before ++ rest ∧ EndsLine before ∧ IsLine delimiter rest

theorem HasLine.length_le {d s : Bytes} (h : HasLine d s) : d.length ≤ s.length := by
  obtain ⟨before, rest, rfl, -, after, rfl, -⟩ := h
  simp only [List.length_append]
  omega

theorem mayFollow_iff {after : Bytes} : mayFollow after ↔ Follows after := by
  unfold mayFollow Follows
  split
  · simp
  · simp [List.cons_prefix_cons]
  · next b s h =>
    have hh : ¬[45, 45] <+: b :: s := by
      rintro ⟨t, ht⟩
      obtain ⟨rfl, rfl⟩ : b = 45 ∧ s = 45 :: t := by simpa using ht.symm
      exact h t rfl rfl
    simp [hh, or_assoc]

theorem isAt_iff {d s : Bytes} : isAt d s ↔ IsLine d s := by
  unfold isAt IsLine
  constructor
  · intro h
    split at h
    · next after ha => exact ⟨after, Text.dropStart?_eq_some_iff.1 ha, mayFollow_iff.1 h⟩
    · cases h
  · rintro ⟨after, rfl, hf⟩
    rw [Text.dropStart?_eq_some_iff.2 rfl]
    exact mayFollow_iff.2 hf

/-- A line break behind the octets makes no delimiter line and breaks none. -/
theorem isLine_append_cons_iff {d : Bytes} {b : UInt8} (hb : b = 13 ∨ b = 10) (hd : b ∉ d)
    (s t : Bytes) : IsLine d (s ++ b :: t) ↔ IsLine d s := by
  constructor
  · rintro ⟨after, h, hf⟩
    rcases List.append_eq_append_iff.1 h with ⟨a, rfl, ha⟩ | ⟨a, rfl, rfl⟩
    · cases a with
      | nil => exact ⟨[], by simp, .inl rfl⟩
      | cons c a =>
        obtain ⟨rfl, -⟩ := List.cons.inj ha
        exact absurd (by simp) hd
    · refine ⟨a, rfl, ?_⟩
      rcases hf with hf | hf | ⟨c, hc, hf⟩
      · simp at hf
      · rcases a with _ | ⟨x, _ | ⟨y, a⟩⟩
        · exact .inl rfl
        · rcases hb with rfl | rfl <;> simp [List.cons_prefix_cons] at hf
        · exact .inr (.inl (by simpa [List.cons_prefix_cons] using hf))
      · cases a with
        | nil => exact .inl rfl
        | cons x a => exact .inr (.inr ⟨c, hc, by simpa [List.cons_prefix_cons] using hf⟩)
  · rintro ⟨after, rfl, hf⟩
    refine ⟨after ++ b :: t, List.append_assoc .., ?_⟩
    rcases hf with rfl | hf | ⟨c, hc, hf⟩
    · exact .inr (.inr ⟨b, by rcases hb with rfl | rfl <;> simp, by simp⟩)
    · exact .inr (.inl (hf.trans (List.prefix_append ..)))
    · exact .inr (.inr ⟨c, hc, hf.trans (List.prefix_append ..)⟩)

/-! ## The search -/

theorem find?_of_isLine {d s : Bytes} (h : IsLine d s) : find? d s = some s := by
  rw [find?, if_pos (isAt_iff.2 h)]

theorem find?_of_afterLine {d s r : Bytes} (h : ¬IsLine d s) (hr : s.afterLine = some r) :
    find? d s = find? d r := by
  rw [find?, if_neg (mt isAt_iff.1 h)]
  split
  · next hn => rw [hr] at hn; cases hn
  · next r' hr' => rw [hr] at hr'; cases hr'; rfl

theorem IsLine.hasLine {d s : Bytes} (h : IsLine d s) : HasLine d s :=
  ⟨[], s, rfl, .inl rfl, h⟩

theorem HasLine.append_left {d s : Bytes} (h : HasLine d s) {u : Bytes} (hu : EndsLine u) :
    HasLine d (u ++ s) := by
  obtain ⟨before, rest, rfl, hb, hl⟩ := h
  exact ⟨u ++ before, rest, (List.append_assoc ..).symm, hu.append hb, hl⟩

/-- A delimiter line starts at the octets or in what follows their first line. -/
theorem hasLine_append_iff {d u r : Bytes} (hu : lineFeed ∉ u) :
    HasLine d (u ++ lineFeed :: r) ↔ IsLine d (u ++ lineFeed :: r) ∨ HasLine d r := by
  constructor
  · rintro ⟨before, rest, h, hb, hl⟩
    rcases hb with rfl | ⟨t, rfl⟩
    · exact .inl (by rwa [h])
    · rw [List.append_assoc] at h
      rcases List.append_eq_append_iff.1 h with ⟨a, rfl, ha⟩ | ⟨a, rfl, ha⟩
      · cases a with
        | nil => exact .inr (by rw [(List.cons.inj ha).2]; exact hl.hasLine)
        | cons b a =>
          obtain ⟨rfl, rfl⟩ := List.cons.inj ha
          exact .inr ⟨a ++ [lineFeed], rest, by simp, .inr ⟨a, rfl⟩, hl⟩
      · cases a with
        | nil => exact .inr (by rw [← (List.cons.inj ha).2]; exact hl.hasLine)
        | cons b a =>
          obtain ⟨rfl, -⟩ := List.cons.inj ha
          exact absurd (by simp) hu
  · rintro (h | h)
    · exact h.hasLine
    · have := h.append_left (u := u ++ [lineFeed]) (.inr ⟨u, rfl⟩)
      rwa [List.append_assoc] at this

theorem hasLine_iff_of_not_mem {d s : Bytes} (hs : lineFeed ∉ s) : HasLine d s ↔ IsLine d s := by
  refine ⟨?_, IsLine.hasLine⟩
  rintro ⟨before, rest, rfl, rfl | ⟨t, rfl⟩, hl⟩
  · exact hl
  · exact absurd (by simp) hs

theorem find?_eq_none_iff {d s : Bytes} : find? d s = none ↔ ¬HasLine d s := by
  fun_induction find? d s with
  | case1 s h => simp [(isAt_iff.1 h).hasLine]
  | case2 s h hn =>
    rw [hasLine_iff_of_not_mem (afterLine_eq_none_iff.1 hn)]
    simpa using mt isAt_iff.2 h
  | case3 s h rest hr ih =>
    obtain ⟨u, hu, rfl⟩ := eq_append_of_afterLine hr
    rw [ih, hasLine_append_iff hu]
    simp [mt isAt_iff.2 h]

/-- What is found is the end of the octets from a delimiter line on. -/
theorem eq_append_of_find? {d s r : Bytes} (h : find? d s = some r) :
    ∃ before, s = before ++ r ∧ EndsLine before ∧ IsLine d r := by
  fun_induction find? d s with
  | case1 s hs =>
    cases h
    exact ⟨[], rfl, .inl rfl, isAt_iff.1 hs⟩
  | case2 => cases h
  | case3 s _ rest hr ih =>
    obtain ⟨before, rfl, hb, hl⟩ := ih h
    obtain ⟨u, -, rfl⟩ := eq_append_of_afterLine hr
    refine ⟨u ++ [lineFeed] ++ before, by simp, ?_, hl⟩
    exact EndsLine.append (.inr ⟨u, rfl⟩) hb

/-! ## Across a line break -/

variable {d : Bytes}

theorem isLine_append_lineEnd_iff (h13 : 13 ∉ d) (h10 : 10 ∉ d) {e : Bytes} (he : IsLineEnd e)
    (s t : Bytes) : IsLine d (s ++ (e ++ t)) ↔ IsLine d s := by
  rcases he with rfl | rfl
  · exact isLine_append_cons_iff (.inr rfl) h10 s t
  · exact isLine_append_cons_iff (.inl rfl) h13 s _

/-- Before a line break the search is that of the octets there, and behind it that of the rest. The
induction is that of the search. -/
theorem find?_append_lineEnd (h13 : 13 ∉ d) (h10 : 10 ∉ d) {e : Bytes} (he : IsLineEnd e)
    (u t : Bytes) :
    find? d (u ++ (e ++ t)) = ((find? d u).map (· ++ (e ++ t))).or (find? d t) := by
  have hline := isLine_append_lineEnd_iff h13 h10 he (t := t)
  fun_induction find? d u with
  | case1 u h =>
    rw [find?_of_isLine ((hline u).2 (isAt_iff.1 h))]
    rfl
  | case2 u h hn =>
    have hu : ¬IsLine d (u ++ (e ++ t)) := mt (hline u).1 (mt isAt_iff.2 h)
    rw [find?_of_afterLine hu (he.afterLine_append (afterLine_eq_none_iff.1 hn) t)]
    rfl
  | case3 u h rest hr ih =>
    have hu : ¬IsLine d (u ++ (e ++ t)) := mt (hline u).1 (mt isAt_iff.2 h)
    obtain ⟨v, hv, rfl⟩ := eq_append_of_afterLine hr
    have ha : afterLine (v ++ lineFeed :: rest ++ (e ++ t)) = some (rest ++ (e ++ t)) := by
      rw [List.append_assoc, List.cons_append]
      exact afterLine_append hv _
    rw [find?_of_afterLine hu ha, ih]

/-- Octets without a delimiter line before a line break are passed over. -/
theorem find?_append_of_not_hasLine (h13 : 13 ∉ d) (h10 : 10 ∉ d) {e u : Bytes} (he : IsLineEnd e)
    (hu : ¬HasLine d u) (t : Bytes) : find? d (u ++ (e ++ t)) = find? d t := by
  rw [find?_append_lineEnd h13 h10 he, find?_eq_none_iff.2 hu]
  rfl

/-- A delimiter line stands before a line break or behind it. -/
theorem hasLine_append_lineEnd_iff (h13 : 13 ∉ d) (h10 : 10 ∉ d) {e : Bytes} (he : IsLineEnd e)
    (u t : Bytes) : HasLine d (u ++ (e ++ t)) ↔ HasLine d u ∨ HasLine d t := by
  have h := find?_eq_none_iff (d := d) (s := u ++ (e ++ t))
  rw [find?_append_lineEnd h13 h10 he, Option.or_eq_none_iff, Option.map_eq_none_iff,
    find?_eq_none_iff, find?_eq_none_iff] at h
  tauto

theorem not_hasLine_nil (hd : d ≠ []) : ¬HasLine d [] := by
  rw [hasLine_iff_of_not_mem (by simp)]
  rintro ⟨after, h, -⟩
  exact hd (List.append_eq_nil_iff.1 h.symm).1

theorem before_append (s rest : Bytes) : before (s ++ rest) rest = s := by
  simp [before]

/-- What lies before the first delimiter line holds none, the line break before it left out. -/
theorem not_hasLine_of_find? (hd : d ≠ []) (h13 : 13 ∉ d) (h10 : 10 ∉ d) {s r : Bytes}
    (h : find? d s = some r) : ¬HasLine d (dropLineEnd (before s r)) := by
  obtain ⟨u, rfl, hu, -⟩ := eq_append_of_find? h
  rw [before_append]
  rcases hu with rfl | ⟨t, rfl⟩
  · exact not_hasLine_nil hd
  · obtain ⟨e, he, ht⟩ := dropLineEnd_append_lineFeed t
    generalize dropLineEnd (t ++ [lineFeed]) = v at ht ⊢
    rw [ht, List.append_assoc, find?_append_lineEnd h13 h10 he] at h
    intro hv
    cases hf : find? d v with
    | none => exact find?_eq_none_iff.1 hf hv
    | some y =>
      -- the line found would start before the line break and after it
      rw [hf] at h
      have hlen := congrArg List.length (Option.some.inj h)
      rcases he with rfl | rfl <;> simp at hlen <;> omega

/-! ## Parts -/

theorem partsFrom_of_closing {s : Bytes} (h : isClosing (s.drop d.length)) :
    partsFrom d s = .ok [] := by
  rw [partsFrom, if_pos h]

theorem partsFrom_of_find? {s content next : Bytes} (h : ¬isClosing (s.drop d.length))
    (hc : afterLine (s.drop d.length) = some content) (hn : find? d content = some next) :
    partsFrom d s = (partsFrom d next).map (dropLineEnd (before content next) :: ·) := by
  rw [partsFrom, if_neg h]
  split
  · next h' => rw [hc] at h'; cases h'
  · next c hc' =>
    rw [hc] at hc'
    cases hc'
    split
    · next h' => rw [hn] at h'; cases h'
    · next n hn' =>
      rw [hn] at hn'
      cases hn'
      rfl

/-- The closing line ends the parts, whatever follows it. -/
theorem partsFrom_closing (rest : Bytes) : partsFrom d (d ++ 45 :: 45 :: rest) = .ok [] := by
  apply partsFrom_of_closing
  simp [isClosing]

/-- A part that was composed is cut out again. -/
theorem partsFrom_part (h13 : 13 ∉ d) (h10 : 10 ∉ d) {content rest : Bytes}
    (hc : ¬HasLine d content) (hr : Follows rest) :
    partsFrom d (d ++ ([13, 10] ++ (content ++ ([13, 10] ++ (d ++ rest))))) =
      (partsFrom d (d ++ rest)).map (content :: ·) := by
  have hn : find? d (content ++ ([13, 10] ++ (d ++ rest))) = some (d ++ rest) := by
    rw [find?_append_of_not_hasLine h13 h10 isLineEnd_crlf hc]
    exact find?_of_isLine ⟨rest, rfl, hr⟩
  have ha : afterLine (List.drop d.length (d ++ ([13, 10] ++ (content ++ ([13, 10] ++
      (d ++ rest)))))) = some (content ++ ([13, 10] ++ (d ++ rest))) := by
    rw [List.drop_left]
    exact isLineEnd_crlf.afterLine_append (u := []) (by simp) _
  rw [partsFrom_of_find? (by simp [isClosing]) ha hn, ← List.append_assoc, before_append,
    dropLineEnd_append_crlf]

theorem not_hasLine_of_partsFrom (hd : d ≠ []) (h13 : 13 ∉ d) (h10 : 10 ∉ d) {s : Bytes}
    {ps : List Bytes} (h : partsFrom d s = .ok ps) : ∀ p ∈ ps, ¬HasLine d p := by
  fun_induction partsFrom d s generalizing ps with
  | case1 =>
    cases h
    simp
  | case2 => cases h
  | case3 => cases h
  | case4 s _ content _ next hn ih =>
    cases hp : partsFrom d next with
    | error e => rw [hp] at h; cases h
    | ok qs =>
      rw [hp] at h
      cases h
      intro p hm
      rcases List.mem_cons.1 hm with rfl | hm
      · exact not_hasLine_of_find? hd h13 h10 hn
      · exact ih hp p hm

/-- No part of a body holds a delimiter line. -/
theorem not_hasLine_of_parts (hd : d ≠ []) (h13 : 13 ∉ d) (h10 : 10 ∉ d) {body : Bytes}
    {ps : List Bytes} (h : parts d body = .ok ps) : ∀ p ∈ ps, ¬HasLine d p := by
  unfold parts at h
  split at h
  · cases h
  · exact not_hasLine_of_partsFrom hd h13 h10 h

end Delimiter
end SealingProxy

import SealingProxy.Text.Blank
import SealingProxy.Text.Split
/-! # Laws of cutting and trimming

Cutting a list that was joined gives the parts back, if they do not hold the separator. A text is
trimmed exactly when neither end of it is a blank, and trimming twice is trimming once. -/

namespace SealingProxy.Text

section Split

variable {α : Type} [DecidableEq α] {c : α} {s : List α}

theorem cut_append_cons (h : c ∉ s) (t : List α) : cut c (s ++ c :: t) = some (s, t) := by
  have hs : ∀ a ∈ s, (a != c) = true := by
    intro a ha
    simp only [bne_iff_ne, ne_eq]
    rintro rfl
    exact h ha
  rw [cut, List.dropWhile_append_of_pos hs, List.takeWhile_append_of_pos hs]
  simp

theorem cut_of_not_mem (h : c ∉ s) : cut c s = none := by
  have hs : ∀ a ∈ s, (a != c) = true := by
    intro a ha
    simp only [bne_iff_ne, ne_eq]
    rintro rfl
    exact h ha
  have hdrop : s.dropWhile (· != c) = [] := by
    rw [← List.append_nil s]
    exact List.dropWhile_append_of_pos hs
  rw [cut, hdrop]

theorem cut_eq_some_iff {l r : List α} : cut c s = some (l, r) ↔ s = l ++ c :: r ∧ c ∉ l := by
  refine ⟨cut_eq_some, ?_⟩
  rintro ⟨rfl, hl⟩
  exact cut_append_cons hl r

theorem cut_eq_none_iff : cut c s = none ↔ c ∉ s := by
  refine ⟨fun hnone hmem => ?_, cut_of_not_mem⟩
  obtain ⟨l, r, rfl, hl⟩ := List.eq_append_cons_of_mem hmem
  rw [cut_append_cons hl] at hnone
  cases hnone

theorem cutLast_eq_some_iff {l r : List α} :
    cutLast c s = some (l, r) ↔ s = l ++ c :: r ∧ c ∉ r := by
  rw [cutLast, Option.map_eq_some_iff]
  constructor
  · rintro ⟨⟨before, after⟩, hcut, hparts⟩
    obtain ⟨rfl, rfl⟩ := Prod.mk.inj hparts
    obtain ⟨hs, hbefore⟩ := cut_eq_some hcut
    refine ⟨?_, fun hc => hbefore (List.mem_reverse.1 hc)⟩
    rw [← List.reverse_reverse s, hs]
    simp
  · rintro ⟨rfl, hr⟩
    refine ⟨(r.reverse, l.reverse), ?_, by simp⟩
    have hreverse : (l ++ c :: r).reverse = r.reverse ++ c :: l.reverse := by simp
    rw [hreverse, cut_append_cons (fun hc => hr (List.mem_reverse.1 hc))]

theorem cutLast_eq_none_iff : cutLast c s = none ↔ c ∉ s := by
  rw [cutLast, Option.map_eq_none_iff, cut_eq_none_iff, List.mem_reverse]

theorem pieces_of_not_mem (h : c ∉ s) : pieces c s = [s] := by
  induction s with
  | nil => rfl
  | cons a s ih =>
    rw [List.mem_cons, not_or] at h
    rw [pieces, if_neg (Ne.symm h.1), ih h.2]

theorem pieces_append_cons (h : c ∉ s) (t : List α) : pieces c (s ++ c :: t) = s :: pieces c t := by
  induction s with
  | nil => rw [List.nil_append, pieces, if_pos rfl]
  | cons a s ih =>
    rw [List.mem_cons, not_or] at h
    rw [List.cons_append, pieces, if_neg (Ne.symm h.1), ih h.2]

theorem pieces_append (s t : List α) : pieces c (s ++ c :: t) = pieces c s ++ pieces c t := by
  induction s with
  | nil => simp [pieces]
  | cons a s ih =>
    rw [List.cons_append, pieces, pieces, ih]
    split
    · rfl
    · cases hs : pieces c s with
      | nil => exact absurd hs (pieces_ne_nil c s)
      | cons p ps => rfl

/-- Induction from the last piece back to the first. -/
@[elab_as_elim]
theorem pieces_induction {motive : List α → Prop} (c : α) (last : ∀ s, c ∉ s → motive s)
    (more : ∀ s t, c ∉ s → motive t → motive (s ++ c :: t)) (s : List α) : motive s := by
  induction hn : s.length using Nat.strongRecOn generalizing s with
  | ind n ih =>
    by_cases hs : c ∈ s
    · obtain ⟨u, t, rfl, hu⟩ := List.eq_append_cons_of_mem hs
      have hlt : t.length < n := by
        rw [← hn, List.length_append, List.length_cons]
        omega
      exact more u t hu (ih _ hlt t rfl)
    · exact last s hs

theorem not_mem_of_mem_pieces {p : List α} (h : p ∈ pieces c s) : c ∉ p := by
  induction s generalizing p with
  | nil =>
    rw [pieces, List.mem_singleton] at h
    simp [h]
  | cons a s ih =>
    rw [pieces] at h
    split at h
    · rcases List.mem_cons.1 h with rfl | h
      · simp
      · exact ih h
    · next hac =>
      split at h
      · next hn => exact absurd hn (pieces_ne_nil c s)
      · next q qs hq =>
        rcases List.mem_cons.1 h with rfl | h
        · have hcq : c ∉ q := ih (hq ▸ List.mem_cons_self ..)
          simp [Ne.symm hac, hcq]
        · exact ih (hq ▸ List.mem_cons_of_mem _ h)

theorem mem_of_mem_pieces {p : List α} (h : p ∈ pieces c s) {a : α} (ha : a ∈ p) : a ∈ s := by
  induction s generalizing p with
  | nil =>
    rw [pieces, List.mem_singleton] at h
    rwa [h] at ha
  | cons b s ih =>
    rw [pieces] at h
    split at h
    · rcases List.mem_cons.1 h with rfl | h
      · exact absurd ha List.not_mem_nil
      · exact List.mem_cons_of_mem _ (ih h ha)
    · split at h
      · next hn => exact absurd hn (pieces_ne_nil c s)
      · next q qs hq =>
        rcases List.mem_cons.1 h with rfl | h
        · rcases List.mem_cons.1 ha with rfl | ha
          · exact List.mem_cons_self ..
          · exact List.mem_cons_of_mem _ (ih (hq ▸ List.mem_cons_self ..) ha)
        · exact List.mem_cons_of_mem _ (ih (hq ▸ List.mem_cons_of_mem _ h) ha)

end Split

section Trim

variable {p : Char → Bool} {s : List Char}

theorem dropEndWhile_append (h : ∀ c ∈ s, p c = true) (t : List Char) :
    dropEndWhile p (t ++ s) = dropEndWhile p t := by
  have hs : ∀ c ∈ s.reverse, p c = true := fun c hc => h c (List.mem_reverse.1 hc)
  rw [dropEndWhile, List.reverse_append, List.dropWhile_append_of_pos hs, dropEndWhile]

theorem dropEndWhile_eq_self (h : ∀ c ∈ s.getLast?, p c = false) : dropEndWhile p s = s := by
  rcases List.eq_nil_or_concat s with rfl | ⟨t, c, rfl⟩
  · rfl
  · have hc : p c = false := h c (by simp)
    simp [dropEndWhile, hc]

theorem dropEndWhile_isPrefix (p : Char → Bool) (s : List Char) : dropEndWhile p s <+: s := by
  have h := List.dropWhile_suffix (l := s.reverse) p
  rwa [← List.reverse_prefix, List.reverse_reverse] at h

theorem getLast?_dropEndWhile (p : Char → Bool) (s : List Char) :
    ∀ c ∈ (dropEndWhile p s).getLast?, p c = false := by
  intro c hc
  rw [dropEndWhile, List.getLast?_reverse] at hc
  have := List.head?_dropWhile_not p s.reverse
  rw [Option.mem_def.1 hc] at this
  simpa using this

theorem head?_trimStart (s : List Char) : ∀ c ∈ (trimStart s).head?, isBlank c = false := by
  intro c hc
  have := List.head?_dropWhile_not isBlank s
  rw [← trimStart, Option.mem_def.1 hc] at this
  simpa using this

/-- A text is trimmed when neither of its ends is a blank. -/
theorem trim_eq_self_iff : trim s = s ↔
    (∀ c ∈ s.head?, isBlank c = false) ∧ ∀ c ∈ s.getLast?, isBlank c = false := by
  constructor
  · intro h
    have hd : trimStart s = s := by
      have h₁ := (dropEndWhile_isPrefix isBlank (trimStart s)).length_le
      have h₂ := List.dropWhile_suffix (l := s) isBlank
      change (trim s).length ≤ _ at h₁
      rw [h] at h₁
      exact h₂.eq_of_length_le h₁
    have hl := getLast?_dropEndWhile isBlank (trimStart s)
    change ∀ c ∈ (trim s).getLast?, _ at hl
    rw [h] at hl
    exact ⟨hd ▸ head?_trimStart s, hl⟩
  · rintro ⟨hh, hl⟩
    have hs : trimStart s = s := by
      cases s with
      | nil => rfl
      | cons c s => simp [trimStart, hh c rfl]
    rw [trim, hs]
    exact dropEndWhile_eq_self hl

theorem trim_trim (s : List Char) : trim (trim s) = trim s := by
  refine trim_eq_self_iff.2 ⟨?_, getLast?_dropEndWhile isBlank _⟩
  intro c hc
  obtain ⟨t, ht⟩ := dropEndWhile_isPrefix isBlank (trimStart s)
  change trim s ++ t = _ at ht
  apply head?_trimStart s
  rw [← ht, List.head?_append, Option.mem_def.1 hc]
  rfl

theorem trim_cons_of_isBlank {c : Char} (h : isBlank c) : trim (c :: s) = trim s := by
  simp [trim, trimStart, h]

theorem mem_of_mem_trim {c : Char} (h : c ∈ trim s) : c ∈ s :=
  (List.dropWhile_suffix isBlank).subset ((dropEndWhile_isPrefix isBlank _).subset h)

theorem trim_append_of_isBlank {t : List Char} (h : ∀ c ∈ t, isBlank c = true) (s : List Char) :
    trim (s ++ t) = trim s := by
  induction s with
  | nil =>
    have ht : trimStart (t ++ []) = [] := List.dropWhile_append_of_pos h
    rw [List.append_nil] at ht
    rw [List.nil_append, trim, ht]
    rfl
  | cons c s ih =>
    cases hc : isBlank c with
    | true => rw [List.cons_append, trim_cons_of_isBlank hc, trim_cons_of_isBlank hc, ih]
    | false =>
      have hstart (u : List Char) : trimStart (c :: u) = c :: u := by simp [trimStart, hc]
      rw [List.cons_append, trim, trim, hstart, hstart, ← List.cons_append,
        dropEndWhile_append h]

theorem trim_trimStart (s : List Char) : trim (trimStart s) = trim s := by
  induction s with
  | nil => rfl
  | cons c s ih =>
    cases hc : isBlank c with
    | true =>
      have hstart : trimStart (c :: s) = trimStart s := by simp [trimStart, hc]
      rw [hstart, ih, trim_cons_of_isBlank hc]
    | false =>
      have hstart : trimStart (c :: s) = c :: s := by simp [trimStart, hc]
      rw [hstart]

theorem trim_dropEndWhile (s : List Char) : trim (dropEndWhile isBlank s) = trim s := by
  have hs : s = dropEndWhile isBlank s ++ (s.reverse.takeWhile isBlank).reverse := by
    rw [dropEndWhile, ← List.reverse_append, List.takeWhile_append_dropWhile, List.reverse_reverse]
  have hblank : ∀ c ∈ (s.reverse.takeWhile isBlank).reverse, isBlank c = true := fun c hc =>
    List.all_eq_true.1 List.all_takeWhile c (List.mem_reverse.1 hc)
  rw [← trim_append_of_isBlank hblank, ← hs]

theorem trimStart_append_cons {c : Char} (h : isBlank c = false) (l r : List Char) :
    trimStart (l ++ c :: r) = trimStart l ++ c :: r := by
  induction l with
  | nil => simp [trimStart, h]
  | cons a l ih =>
    cases ha : isBlank a <;> simp_all [trimStart]

theorem trim_append_cons {c : Char} (h : isBlank c = false) (l r : List Char) :
    trim (l ++ c :: r) = trimStart l ++ c :: dropEndWhile isBlank r := by
  have hreverse : (trimStart l ++ c :: r).reverse = r.reverse ++ c :: (trimStart l).reverse := by
    simp
  -- The end of a text is the start of its reversal.
  have hend := trimStart_append_cons h r.reverse (trimStart l).reverse
  rw [trim, trimStart_append_cons h, dropEndWhile, hreverse, ← trimStart, hend]
  simp [dropEndWhile, trimStart]

theorem mem_trim_iff {c : Char} (h : isBlank c = false) : c ∈ trim s ↔ c ∈ s := by
  refine ⟨mem_of_mem_trim, fun hc => ?_⟩
  obtain ⟨l, r, rfl⟩ := List.append_of_mem hc
  rw [trim_append_cons h]
  exact List.mem_append_cons_self

/-- Cutting a trimmed text at a mark -/
theorem cut_trim {c : Char} (h : isBlank c = false) (s : List Char) :
    cut c (trim s) = (cut c s).map fun p => (trimStart p.1, dropEndWhile isBlank p.2) := by
  cases hcut : cut c s with
  | none => exact cut_of_not_mem fun hc => cut_eq_none_iff.1 hcut (mem_of_mem_trim hc)
  | some parts =>
    obtain ⟨l, r⟩ := parts
    obtain ⟨rfl, hl⟩ := cut_eq_some hcut
    have hstart : c ∉ trimStart l := fun hc => hl ((List.dropWhile_suffix isBlank).subset hc)
    rw [trim_append_cons h, cut_append_cons hstart]
    rfl

theorem cut_trimStart {c : Char} (h : isBlank c = false) (s : List Char) :
    cut c (trimStart s) = (cut c s).map fun p => (trimStart p.1, p.2) := by
  cases hcut : cut c s with
  | none =>
    exact cut_of_not_mem fun hc => cut_eq_none_iff.1 hcut ((List.dropWhile_suffix isBlank).subset hc)
  | some parts =>
    obtain ⟨l, r⟩ := parts
    obtain ⟨rfl, hl⟩ := cut_eq_some hcut
    have hstart : c ∉ trimStart l := fun hc => hl ((List.dropWhile_suffix isBlank).subset hc)
    rw [trimStart_append_cons h, cut_append_cons hstart]
    rfl

end Trim
end SealingProxy.Text

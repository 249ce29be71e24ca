import SealingProxy.Json.Printer
import SealingProxy.Proofs.Decimals
/-! # Tokens read back

A written token reads as itself, whatever follows it; only what follows a number must not go on
with it. For whole numbers this is a theorem. Whether the text of a double reads as a number, and
as which one, is left open: a number that reads is read as `reread`. -/

namespace SealingProxy

namespace JsonToken
open Text

/-- What follows does not go on with a number. -/
def EndsNumber (s : List Char) : Prop :=
  ∀ c ∈ s.head?, c.isDigit = false ∧ c ≠ '.' ∧ c ≠ 'e' ∧ c ≠ 'E'

theorem endsNumber_nil : EndsNumber [] := by
  simp [EndsNumber]

theorem endsNumber_comma (s : List Char) : EndsNumber (',' :: s) := by
  simp [EndsNumber]

theorem endsNumber_bracket (s : List Char) : EndsNumber (']' :: s) := by
  simp [EndsNumber]

theorem endsNumber_brace (s : List Char) : EndsNumber ('\x7d' :: s) := by
  simp [EndsNumber]

theorem takeSign_append {s : List Char} (hs : s ≠ []) (rest : List Char) :
    Decimal.takeSign (s ++ rest) =
      ((Decimal.takeSign s).1, (Decimal.takeSign s).2 ++ rest) := by
  obtain ⟨c, t, rfl⟩ := List.exists_cons_of_ne_nil hs
  by_cases h₁ : c = '+'
  · subst h₁
    rfl
  by_cases h₂ : c = '-'
  · subst h₂
    rfl
  · simp [Decimal.takeSign, h₁, h₂]

section Numbers

variable {rest : List Char} (hrest : EndsNumber rest)
include hrest

theorem digits_append (s : List Char) :
    digits (s ++ rest) = ((digits s).1, (digits s).2 ++ rest) := by
  induction s with
  | nil =>
    cases rest with
    | nil => rfl
    | cons c r => simp [digits, (hrest c rfl).1]
  | cons c s ih =>
    obtain ⟨h₁, h₂⟩ := Prod.mk.inj ih
    by_cases hc : c.isDigit
    · simp only [digits, List.cons_append, List.takeWhile_cons_of_pos hc,
        List.dropWhile_cons_of_pos hc, h₁, h₂]
    · simp [digits, hc]

theorem readWhole?_append {s w r : List Char} (h : readWhole? s = some (w, r)) :
    readWhole? (s ++ rest) = some (w, r ++ rest) := by
  unfold readWhole? at h
  split at h
  · cases h
    rfl
  · next hz =>
    split at h
    · cases h
    · next hd =>
      cases h
      have hs : readWhole? (s ++ rest) =
          if (digits (s ++ rest)).1.isEmpty then none else some (digits (s ++ rest)) := by
        cases s with
        | nil => exact absurd rfl hd
        | cons c s =>
          rw [List.cons_append, readWhole?]
          rintro _ heq
          exact hz _ (by rw [(List.cons.inj heq).1])
      rw [hs, digits_append hrest, if_neg hd]
      rfl

theorem readDecimals?_append {s d r : List Char} (h : readDecimals? s = some (d, r)) :
    readDecimals? (s ++ rest) = some (d, r ++ rest) := by
  cases s with
  | nil =>
    cases h
    cases rest with
    | nil => rfl
    | cons c t =>
      rw [List.nil_append, readDecimals?]
      intro s' heq
      exact (hrest c rfl).2.1 (List.cons.inj heq).1
  | cons c s =>
    by_cases hc : c = '.'
    · subst hc
      simp only [readDecimals?] at h
      split at h
      · cases h
      · next hd =>
        cases h
        simp only [List.cons_append, readDecimals?, digits_append hrest, if_neg hd]
        rfl
    · have hne {t : List Char} : ∀ s' : List Char, c :: t = '.' :: s' → False :=
        fun s' heq => hc (List.cons.inj heq).1
      rw [readDecimals?] at h
      · cases h
        rw [List.cons_append, readDecimals?]
        exact hne
      · exact hne

theorem readExponent?_append {s r : List Char} {e : Option Int}
    (h : readExponent? s = some (e, r)) : readExponent? (s ++ rest) = some (e, r ++ rest) := by
  cases s with
  | nil =>
    cases h
    cases rest with
    | nil => rfl
    | cons c t => simp [readExponent?, (hrest c rfl).2.2]
  | cons c s =>
    by_cases hc : c = 'e' ∨ c = 'E'
    · simp only [readExponent?, if_pos hc] at h
      split at h
      · cases h
      · next hd =>
        have hs : s ≠ [] := by
          rintro rfl
          exact hd rfl
        cases h
        simp only [List.cons_append, readExponent?, if_pos hc, takeSign_append hs,
          digits_append hrest, if_neg hd]
    · simp only [readExponent?, if_neg hc] at h
      cases h
      simp [readExponent?, hc]

/-- What follows a number does not change it. -/
theorem readNumber?_append {s r : List Char} {n : JsonNumber} (h : readNumber? s = some (n, r)) :
    readNumber? (s ++ rest) = some (n, r ++ rest) := by
  have hw {w : JsonNumber.Written} {r : List Char} (h : readWritten? s = some (w, r)) :
      readWritten? (s ++ rest) = some (w, r ++ rest) := by
    unfold readWritten? at h
    split at h
    · cases h
    · next h₁ =>
      split at h
      · cases h
      · next h₂ =>
        obtain ⟨e, h₃, he⟩ := Option.map_eq_some_iff.1 h
        have hs : s ≠ [] := by
          rintro rfl
          cases h₁
        have hm : readMinus (s ++ rest) = ((readMinus s).1, (readMinus s).2 ++ rest) := by
          obtain ⟨c, t, rfl⟩ := List.exists_cons_of_ne_nil hs
          by_cases hc : c = '-'
          · subst hc
            rfl
          · simp [readMinus, hc]
        cases he
        simp only [readWritten?, hm, readWhole?_append hrest h₁, readDecimals?_append hrest h₂,
          readExponent?_append hrest h₃]
        rfl
  unfold readNumber? at h
  split at h
  · cases h
  · next hs =>
    obtain ⟨m, hm, he⟩ := Option.map_eq_some_iff.1 h
    cases he
    simp only [readNumber?, hw hs, hm]
    rfl

end Numbers

theorem isSign_of_readNumber? {c : Char} {s r : List Char} {n : JsonNumber}
    (h : readNumber? (c :: s) = some (n, r)) : c = '-' ∨ c.isDigit = true := by
  by_cases hc : c = '-'
  · exact .inl hc
  refine .inr (Decidable.byContradiction fun hd => ?_)
  have hw : readWhole? (c :: s) = none := by
    rw [readWhole?]
    · simp [digits, hd]
    · rintro _ heq
      exact hd (by rw [(List.cons.inj heq).1]; rfl)
  have hm : readMinus (c :: s) = (false, c :: s) := by
    rw [readMinus]
    rintro _ heq
    exact hc (List.cons.inj heq).1
  simp [readNumber?, readWritten?, hm, hw] at h

/-! ## Whole numbers -/

theorem digits_of_isDigit {s : List Char} (h : ∀ c ∈ s, c.isDigit = true) :
    digits s = (s, []) := by
  induction s with
  | nil => rfl
  | cons c s ih =>
    obtain ⟨ht, hd⟩ := Prod.mk.inj (ih fun a ha => h a (List.mem_cons_of_mem _ ha))
    simp [digits, h c (List.mem_cons_self ..), ht, hd]

theorem readWhole?_write (n : Nat) : readWhole? (Decimal.write n) = some (Decimal.write n, []) := by
  by_cases hn : n = 0
  · subst hn
    rfl
  · have hd := digits_of_isDigit fun c hc => Decimal.isDigit_of_mem_write (n := n) hc
    rw [readWhole?, hd, if_neg (by simpa using Decimal.write_ne_nil n)]
    intro s heq
    exact Decimal.head?_write_ne (Nat.pos_of_ne_zero hn) (by rw [heq]; rfl)

theorem readWritten?_write (negative : Bool) (n : Nat) :
    readWritten? ((if negative then ['-'] else []) ++ Decimal.write n) =
      some (⟨negative, Decimal.write n, [], none⟩, []) := by
  have hm : readMinus ((if negative then ['-'] else []) ++ Decimal.write n) =
      (negative, Decimal.write n) := by
    cases negative with
    | true => rfl
    | false =>
      obtain ⟨c, s, hs⟩ := List.exists_cons_of_ne_nil (Decimal.write_ne_nil n)
      have hc : c.isDigit = true := Decimal.isDigit_of_mem_write (n := n) (by simp [hs])
      change readMinus (Decimal.write n) = _
      rw [hs, readMinus]
      rintro _ heq
      rw [(List.cons.inj heq).1] at hc
      exact absurd hc (by decide)
  simp only [readWritten?, hm, readWhole?_write, readDecimals?, readExponent?]
  rfl

end JsonToken

namespace JsonNumber

/-- Digits are collected as long as their number fits. -/
theorem collect_of_lt {s : List Char} {n : Nat}
    (h : s.foldl (fun n c => n * 10 + Decimal.digitValue c) n < UInt64.size) :
    collect n s = (s.foldl (fun n c => n * 10 + Decimal.digitValue c) n, s.length) := by
  have hmono (t : List Char) (k : Nat) :
      k ≤ t.foldl (fun n c => n * 10 + Decimal.digitValue c) k := by
    induction t generalizing k with
    | nil => exact Nat.le_refl k
    | cons c t ih =>
      have hk : k ≤ k * 10 + Decimal.digitValue c := by omega
      exact Nat.le_trans hk (ih _)
  induction s generalizing n with
  | nil => rfl
  | cons c s ih =>
    have hn := Nat.lt_of_le_of_lt (hmono s _) h
    simp only [collect, if_pos hn, ih h]
    rfl

theorem collect_write {n : Nat} (h : n < UInt64.size) :
    collect 0 (Decimal.write n) = (n, (Decimal.write n).length) := by
  have hf : (Decimal.write n).foldl (fun n c => n * 10 + Decimal.digitValue c) 0 = n :=
    Decimal.ofDigits_write n
  rw [collect_of_lt (by rw [hf]; exact h), hf]

theorem ofWritten?_write (negative : Bool) {n : Nat} (h : n < UInt64.size) :
    ofWritten? ⟨negative, Decimal.write n, [], none⟩ = some (ofMagnitude negative n) := by
  simp [ofWritten?, collect_write h]

theorem readNumber?_whole (n : Int) (h : -9223372036854775808 ≤ n ∧ n < 18446744073709551616) :
    JsonToken.readNumber? (whole n h).text = some (whole n h, []) := by
  have hsize : UInt64.size = 18446744073709551616 := rfl
  have ht : (whole n h).text =
      (if decide (n < 0) then ['-'] else []) ++ Decimal.write n.natAbs := by
    by_cases hn : n < 0 <;> simp [text, hn]
  have hm : ofMagnitude (decide (n < 0)) n.natAbs = whole n h := by
    unfold ofMagnitude
    by_cases hn : n < 0
    · have hr : 0 < n.natAbs ∧ n.natAbs ≤ 9223372036854775808 := by omega
      have he : -(n.natAbs : Int) = n := by omega
      simp only [hn, decide_true, if_true, dif_pos hr, he]
    · have hr : n.natAbs < 18446744073709551616 := by omega
      have he : (n.natAbs : Int) = n := by omega
      simp only [hn, decide_false, Bool.false_eq_true, if_false, dif_pos hr, he]
  rw [ht, JsonToken.readNumber?, JsonToken.readWritten?_write]
  simp only [ofWritten?_write _ (show n.natAbs < UInt64.size by omega), hm]
  rfl

def reread (n : JsonNumber) : JsonNumber :=
  ((JsonToken.readNumber? n.text).map (·.1)).getD n

def IsReadable (n : JsonNumber) : Prop :=
  JsonToken.readNumber? n.text = some (n.reread, [])

theorem reread_whole (n : Int) (h : -9223372036854775808 ≤ n ∧ n < 18446744073709551616) :
    (whole n h).reread = whole n h := by
  rw [reread, readNumber?_whole]
  rfl

theorem isReadable_whole (n : Int) (h : -9223372036854775808 ≤ n ∧ n < 18446744073709551616) :
    (whole n h).IsReadable := by
  rw [IsReadable, reread_whole, readNumber?_whole]

end JsonNumber

/-! ## Strings -/

namespace JsonToken
open Text

/-- The thirty-two control characters, one by one. -/
private theorem escape?_controlEscape {n : Nat} (hn : n < 32) (s : List Char) :
    ∃ t, controlEscape (Char.ofNat n) = '\\' :: t ∧ escape? (t ++ s) = some (Char.ofNat n, s) := by
  match n with
  | 0 | 1 | 2 | 3 | 4 | 5 | 6 | 7 | 8 | 9 | 10 | 11 | 12 | 13 | 14 | 15 | 16 | 17 | 18 | 19 | 20 | 21
  | 22 | 23 | 24 | 25 | 26 | 27 | 28 | 29 | 30 | 31 => exact ⟨_, rfl, rfl⟩
  | n + 32 => omega

private theorem readString?_controlEscape {n : Nat} (hn : n < 32) (s : List Char) :
    readString? (controlEscape (Char.ofNat n) ++ s) =
      (readString? s).map fun p => (Char.ofNat n :: p.1, p.2) := by
  obtain ⟨t, he, ht⟩ := escape?_controlEscape hn s
  rw [he, List.cons_append, readString?, if_neg (by decide), if_pos rfl]
  split
  · next h => rw [ht] at h; cases h
  · next h =>
    rw [ht] at h
    cases h
    rfl

/-- A written character reads as itself, whatever follows it. -/
theorem readString?_writeChar (c : Char) (s : List Char) :
    readString? (writeChar c ++ s) = (readString? s).map fun p => (c :: p.1, p.2) := by
  have hesc {e : Char} (he : escape? (e :: s) = some (c, s)) :
      readString? ('\\' :: e :: s) = (readString? s).map fun p => (c :: p.1, p.2) := by
    rw [readString?, if_neg (by decide), if_pos rfl]
    split
    · next h => rw [he] at h; cases h
    · next h =>
      rw [he] at h
      cases h
      rfl
  unfold writeChar
  split
  · next h =>
    subst h
    exact hesc rfl
  · next hq =>
    split
    · next h =>
      subst h
      exact hesc rfl
    · next hb =>
      split
      · next h =>
        have := readString?_controlEscape h s
        rwa [Char.ofNat_toNat] at this
      · next h => rw [List.singleton_append, readString?, if_neg hq, if_neg hb, if_neg h]

theorem readString?_write (s rest : List Char) :
    readString? (s.flatMap writeChar ++ '"' :: rest) = some (s, rest) := by
  induction s with
  | nil => rw [List.flatMap_nil, List.nil_append, readString?, if_pos rfl]
  | cons c s ih =>
    rw [List.flatMap_cons, List.append_assoc, readString?_writeChar, ih]
    rfl

/-! ## Tokens -/

def reread : JsonToken → JsonToken
  | number n => number n.reread
  | t => t

def IsReadable : JsonToken → Prop
  | number n => n.IsReadable
  | _ => True

def EndsToken : JsonToken → List Char → Prop
  | number _, s => EndsNumber s
  | _, _ => True

theorem read?_of_next? {c : Char} {s r : List Char} {t : JsonToken} (hc : isSpace c = false)
    (h : next? c s = some (t, r)) : read? (c :: s) = (read? r).map (t :: ·) := by
  rw [read?, if_neg (by simp [hc])]
  split
  · next h' => rw [h] at h'; cases h'
  · next h' =>
    rw [h] at h'
    cases h'
    rfl

private theorem read?_number {n : JsonNumber} (h : n.IsReadable) {rest : List Char}
    (hrest : EndsNumber rest) :
    read? (n.text ++ rest) = (read? rest).map (number n.reread :: ·) := by
  have hn := readNumber?_append hrest h
  cases ht : n.text with
  | nil =>
    rw [JsonNumber.IsReadable, ht] at h
    cases h
  | cons c s =>
    rw [ht] at hn
    rw [JsonNumber.IsReadable, ht] at h
    have hc : isSpace c = false ∧ mark? c = none ∧ c ≠ '"' ∧ c ≠ 'n' ∧ c ≠ 't' ∧ c ≠ 'f' := by
      have hne {d : Char} (hd : d ≠ '-' ∧ d.isDigit = false) : c ≠ d := by
        rintro rfl
        rcases isSign_of_readNumber? h with hs | hs
        · exact hd.1 hs
        · simp [hd.2] at hs
      simp [isSpace, mark?, hne]
    apply read?_of_next? hc.1
    obtain ⟨-, hm, h₁, h₂, h₃, h₄⟩ := hc
    simp only [next?, hm, if_neg h₁, if_neg h₂, if_neg h₃, if_neg h₄]
    have hr : readNumber? (c :: s.append rest) = some (n.reread, rest) := hn
    rw [hr]
    rfl

/-- A written token reads as a token, and leaves what follows it. -/
theorem read?_text {t : JsonToken} (h : t.IsReadable) {rest : List Char} (hrest : t.EndsToken rest) :
    read? (t.text ++ rest) = (read? rest).map (t.reread :: ·) := by
  cases t with
  | number n => exact read?_number h hrest
  | string s =>
    apply read?_of_next? (by decide)
    have hs := readString?_write s.toList rest
    rw [next?]
    simp [mark?, hs, reread]
  | bool b => cases b <;> exact read?_of_next? (by decide) rfl
  | null => exact read?_of_next? (by decide) rfl
  | openArray => exact read?_of_next? (by decide) rfl
  | closeArray => exact read?_of_next? (by decide) rfl
  | openObject => exact read?_of_next? (by decide) rfl
  | closeObject => exact read?_of_next? (by decide) rfl
  | comma => exact read?_of_next? (by decide) rfl
  | colon => exact read?_of_next? (by decide) rfl

end JsonToken
end SealingProxy

import SealingProxy.Decimal.Unsigned
import SealingProxy.Proofs.TextPieces
/-! # Decimals read back

A written number has digits only, starts with a zero only if it is zero, and reads as itself. What
else is read as a number is a word: digits, perhaps after a plus sign, of a value in bounds. -/

namespace SealingProxy.Decimal

theorem write_ne_nil (n : Nat) : write n ≠ [] :=
  Nat.toDigits_ne_nil

@[simp] theorem toList_text (n : Nat) : (text n).toList = write n :=
  String.toList_ofList

theorem isDigit_of_mem_write {n : Nat} {c : Char} (h : c ∈ write n) : c.isDigit = true :=
  Nat.isDigit_of_mem_toDigits (by decide) (by decide) h

theorem ofDigits_write (n : Nat) : ofDigits (write n) = n := by
  have h : ofDigits (write n) = Nat.ofDigitChars 10 (Nat.toDigits 10 n) 0 := by
    rw [Nat.ofDigitChars_eq_foldl]
    simp only [ofDigits, write, digitValue, Nat.mul_comm]
  rw [h]
  exact Nat.ofDigitChars_ten_toDigits

/-- The induction takes the last digit off. -/
theorem head?_write_ne {n : Nat} (h : 0 < n) : (write n).head? ≠ some '0' := by
  induction n using Nat.strongRecOn with
  | ind n ih =>
    by_cases hn : n < 10
    · have hd : ∀ m < 10, 0 < m → [Nat.digitChar m].head? ≠ some '0' := by decide
      rw [write, Nat.toDigits_of_lt_base hn]
      exact hd n hn h
    · rw [write, Nat.toDigits_of_base_le (by decide) (by omega), List.head?_append,
        Option.or_of_isSome (by simp [Nat.toDigits_ne_nil])]
      exact ih (n / 10) (by omega) (by omega)

/-- An optional plus sign, one or more digits, and a value below `2 ^ 64`. -/
def IsWord (s : List Char) (n : Nat) : Prop :=
  ∃ digits, (s = digits ∨ s = '+' :: digits) ∧ digits ≠ [] ∧ (∀ c ∈ digits, c.isDigit = true) ∧
    ofDigits digits = n ∧ n < UInt64.size

theorem IsWord.ne_nil {s : List Char} {n : Nat} (h : IsWord s n) : s ≠ [] := by
  rintro rfl
  obtain ⟨digits, hs | hs, hne, -⟩ := h
  · exact hne hs.symm
  · cases hs

theorem unsigned_of_isDigit {digits : List Char} (h : ∀ c ∈ digits, c.isDigit = true) :
    unsigned digits = digits := by
  unfold unsigned
  split
  · exact absurd (h '+' (List.mem_cons_self ..)) (by decide)
  · rfl

theorem read?_eq_some_iff {s : List Char} {n : Nat} : read? s = some n ↔ IsWord s n := by
  have hread : read? s = some n ↔
      (isDigits (unsigned s) = true ∧ ofDigits (unsigned s) < UInt64.size) ∧
        ofDigits (unsigned s) = n := by
    rw [read?, Option.ite_none_right_eq_some, Option.some.injEq]
  have hdigits (t : List Char) : isDigits t = true ↔ t ≠ [] ∧ ∀ c ∈ t, c.isDigit = true := by
    simp [isDigits]
  rw [hread, hdigits]
  constructor
  · rintro ⟨⟨⟨hne, hall⟩, hlt⟩, rfl⟩
    refine ⟨unsigned s, ?_, hne, hall, rfl, hlt⟩
    unfold unsigned
    split
    · exact .inr rfl
    · exact .inl rfl
  · rintro ⟨digits, hs, hne, hall, rfl, hlt⟩
    have hunsigned : unsigned s = digits := by
      rcases hs with rfl | rfl
      · exact unsigned_of_isDigit hall
      · rfl
    rw [hunsigned]
    exact ⟨⟨⟨hne, hall⟩, hlt⟩, rfl⟩

theorem read?_write {n : Nat} (h : n < UInt64.size) : read? (write n) = some n :=
  read?_eq_some_iff.2
    ⟨write n, .inl rfl, write_ne_nil n, fun _ hc => isDigit_of_mem_write hc, ofDigits_write n, h⟩

theorem ofDigits_replicate_append (k : Nat) (s : List Char) :
    ofDigits (List.replicate k '0' ++ s) = ofDigits s := by
  have hzeros : (List.replicate k '0').foldl (fun n c => n * 10 + digitValue c) 0 = 0 := by
    induction k with
    | zero => rfl
    | succ k ih =>
      rw [List.replicate_succ', List.foldl_append, ih]
      rfl
  rw [ofDigits, List.foldl_append, hzeros, ofDigits]

theorem isBlank_of_isDigit {c : Char} (h : c.isDigit = true) : Text.isBlank c = false := by
  have hdigit : 48 ≤ c.toNat ∧ c.toNat ≤ 57 := Char.isDigit_iff_toNat.1 h
  simp only [Text.isBlank, Text.isIn, Text.blankRanges, List.any_eq_false]
  simp
  omega

/-- No digit is a blank. -/
theorem trim_write (n : Nat) : Text.trim (write n) = write n := by
  have hblank : ∀ c ∈ write n, Text.isBlank c = false := fun c hc =>
    isBlank_of_isDigit (isDigit_of_mem_write hc)
  exact Text.trim_eq_self_iff.2 ⟨fun c hc => hblank c (List.mem_of_mem_head? hc),
    fun c hc => hblank c (List.mem_of_mem_getLast? hc)⟩

end SealingProxy.Decimal

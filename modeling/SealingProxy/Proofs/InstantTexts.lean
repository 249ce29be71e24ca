import SealingProxy.Proofs.Calendar
import SealingProxy.Proofs.Decimals
/-! # Instants read back

Each part of a written instant is read as it was written, whatever follows it, as nothing that
follows a part could belong to it. So every instant in the years that are covered reads as itself, a
second number sixty included. -/

namespace SealingProxy.Instant
open Text

/-! ## Parts of an instant -/

variable {width n : Nat} {rest : List Char}

theorem isDigit_of_mem_padded {c : Char} (h : c ∈ padded width n) : c.isDigit = true := by
  rcases List.mem_append.1 h with h | h
  · rw [List.eq_of_mem_replicate h]
    rfl
  · exact Decimal.isDigit_of_mem_write h

theorem padded_ne_nil (width n : Nat) : padded width n ≠ [] :=
  List.append_ne_nil_of_right_ne_nil _ (Decimal.write_ne_nil n)

theorem exists_padded_eq_cons (width n : Nat) :
    ∃ c s, padded width n = c :: s ∧ c.isDigit = true := by
  cases hpadded : padded width n with
  | nil => exact absurd hpadded (padded_ne_nil width n)
  | cons c s =>
    have hc : c ∈ padded width n := by simp [hpadded]
    exact ⟨c, s, rfl, isDigit_of_mem_padded hc⟩

theorem ofDigits_padded (width n : Nat) : Decimal.ofDigits (padded width n) = n := by
  rw [padded, Decimal.ofDigits_replicate_append, Decimal.ofDigits_write]

theorem length_padded (hw : 0 < width) (h : n < 10 ^ width) : (padded width n).length = width := by
  have hle : (Decimal.write n).length ≤ width :=
    (Nat.length_toDigits_le_iff (by decide) hw).2 h
  rw [padded, List.length_append, List.length_replicate]
  omega

theorem takeWhile_padded_append (hrest : ∀ c ∈ rest.head?, c.isDigit = false) :
    (padded width n ++ rest).takeWhile Char.isDigit = padded width n := by
  rw [List.takeWhile_append_of_pos fun c hc => isDigit_of_mem_padded hc]
  cases rest with
  | nil => simp
  | cons c rest => simp [hrest c (by simp)]

theorem trimStart_padded_append (width n : Nat) (rest : List Char) :
    trimStart (padded width n ++ rest) = padded width n ++ rest := by
  obtain ⟨c, s, hpadded, hdigit⟩ := exists_padded_eq_cons width n
  have hc : isBlank c = false := Decimal.isBlank_of_isDigit hdigit
  rw [hpadded, trimStart, List.cons_append, List.dropWhile_cons_of_neg (by simp [hc])]

theorem readNumber?_padded (hw : 0 < width) (h : n < 10 ^ width) (rest : List Char) :
    readNumber? width (padded width n ++ rest) = some (n, rest) := by
  have hdigits : (padded width n).takeWhile Char.isDigit = padded width n := by
    have hend : (padded width n ++ []).takeWhile Char.isDigit = padded width n :=
      takeWhile_padded_append (by simp)
    rwa [List.append_nil] at hend
  rw [readNumber?, trimStart_padded_append, List.take_left' (length_padded hw h), hdigits,
    if_neg (by simpa using padded_ne_nil width n), ofDigits_padded, List.drop_left]

theorem readDigits?_padded (width n : Nat) (hrest : ∀ c ∈ rest.head?, c.isDigit = false) :
    readYear?.readDigits? (padded width n ++ rest) = some (n, rest) := by
  rw [readYear?.readDigits?, takeWhile_padded_append hrest,
    if_neg (by simpa using padded_ne_nil width n), ofDigits_padded, List.drop_left]

theorem readYear?_padded (h : n < 10 ^ 4) (rest : List Char) :
    readYear? (padded 4 n ++ rest) = some ((n : Int), rest) := by
  have hread := readNumber?_padded (by decide) h rest
  obtain ⟨c, s, hpadded, hdigit⟩ := exists_padded_eq_cons 4 n
  have htrim := trimStart_padded_append 4 n rest
  rw [hpadded, List.cons_append] at hread htrim ⊢
  unfold readYear?
  rw [htrim]
  split
  · next heq =>
    obtain ⟨rfl, -⟩ := List.cons.inj heq
    exact absurd hdigit (by decide)
  · next heq =>
    obtain ⟨rfl, -⟩ := List.cons.inj heq
    exact absurd hdigit (by decide)
  · rw [hread]
    rfl

theorem readYear?_writeYear (year : Int) (hrest : ∀ c ∈ rest.head?, c.isDigit = false) :
    readYear? (writeYear year ++ rest) = some (year, rest) := by
  have hsigned := readDigits?_padded 4 year.natAbs hrest
  unfold writeYear
  split
  · next h =>
    have hyear : (year.toNat : Int) = year := Int.toNat_of_nonneg h.1
    rw [readYear?_padded (by omega), hyear]
  · split
    · next hneg =>
      have hyear : -(year.natAbs : Int) = year := by omega
      have htrim : trimStart ('-' :: (padded 4 year.natAbs ++ rest)) =
        '-' :: (padded 4 year.natAbs ++ rest) := rfl
      simp only [List.cons_append, readYear?, htrim, hsigned, Option.map_some, hyear]
    · next hpos =>
      have hyear : (year.natAbs : Int) = year := by omega
      have htrim : trimStart ('+' :: (padded 4 year.natAbs ++ rest)) =
        '+' :: (padded 4 year.natAbs ++ rest) := rfl
      simp only [List.cons_append, readYear?, htrim, hsigned, Option.map_some, hyear]

theorem readMark?_cons {mark : Char} (h : isBlank mark = false) (rest : List Char) :
    readMark? mark (mark :: rest) = some rest := by
  rw [readMark?, trimStart, List.dropWhile_cons_of_neg (by simp [h])]
  simp [dropStart?]

theorem readFraction?_padded (hw : 0 < width) (hw9 : width ≤ 9) (h : n < 10 ^ width)
    (hrest : ∀ c ∈ rest.head?, c.isDigit = false) :
    readFraction? ('.' :: (padded width n ++ rest)) = some (n * 10 ^ (9 - width), rest) := by
  have hlength := length_padded hw h
  have htake : (padded width n).take 9 = padded width n := List.take_of_length_le (by omega)
  rw [readFraction?, takeWhile_padded_append hrest, if_neg (by simpa using padded_ne_nil width n),
    htake]
  dsimp only
  rw [ofDigits_padded, List.drop_left, hlength]
  rfl

theorem readFraction?_writeFraction {n : Nat} (h : n < 1000000000)
    (hrest : ∀ c ∈ rest.head?, c.isDigit = false ∧ c ≠ '.') :
    readFraction? (writeFraction n ++ rest) = some (n, rest) := by
  have hdigit : ∀ c ∈ rest.head?, c.isDigit = false := fun c hc => (hrest c hc).1
  unfold writeFraction
  split
  · next hzero =>
    subst hzero
    cases rest with
    | nil => rfl
    | cons c rest =>
      have hc : c ≠ '.' := (hrest c (by simp)).2
      simp [readFraction?, hc]
  split
  · next hmilli =>
    have hvalue : n / 1000000 * 10 ^ (9 - 3) = n := by omega
    rw [List.cons_append, readFraction?_padded (by decide) (by decide) (by omega) hdigit, hvalue]
  split
  · next hmicro =>
    have hvalue : n / 1000 * 10 ^ (9 - 6) = n := by omega
    rw [List.cons_append, readFraction?_padded (by decide) (by decide) (by omega) hdigit, hvalue]
  · rw [List.cons_append, readFraction?_padded (by decide) (by decide) (by omega) hdigit]
    simp

/-- What is read of the parts of an instant, written one after the other. -/
theorem read?_parts {d : Date} {hour minute second nanoseconds : Nat} (hmonth : d.month < 100)
    (hday : d.day < 100) (hhour : hour < 100) (hminute : minute < 100) (hsecond : second < 100)
    (hnanoseconds : nanoseconds < 1000000000) :
    read? (String.ofList (writeYear d.year ++ '-' :: padded 2 d.month ++ '-' :: padded 2 d.day ++
      'T' :: padded 2 hour ++ ':' :: padded 2 minute ++ ':' :: padded 2 second ++
      writeFraction nanoseconds ++ ['Z'])) = ofFields? d hour minute second nanoseconds 0 := by
  have hdash : isBlank '-' = false := by decide
  have hcolon : isBlank ':' = false := by decide
  have hpair {n : Nat} (h : n < 100) (rest : List Char) :
      readNumber? 2 (padded 2 n ++ rest) = some (n, rest) := readNumber?_padded (by decide) h rest
  rw [read?, String.toList_ofList]
  simp only [List.append_assoc, List.cons_append]
  rw [readYear?_writeYear _ (by simp)]
  -- One field each time: a simplifier would look at all the rest again after each of them.
  dsimp only [Option.bind_eq_bind, Option.bind_some]
  rw [readMark?_cons hdash, Option.bind_some, hpair hmonth]
  dsimp only [Option.bind_some]
  rw [readMark?_cons hdash, Option.bind_some, hpair hday]
  dsimp only [Option.bind_some, readSeparator?]
  rw [if_pos (.inl rfl), Option.bind_some, hpair hhour]
  dsimp only [Option.bind_some]
  rw [readMark?_cons hcolon, Option.bind_some, hpair hminute]
  dsimp only [Option.bind_some]
  rw [readMark?_cons hcolon, Option.bind_some, hpair hsecond]
  dsimp only [Option.bind_some]
  rw [readFraction?_writeFraction hnanoseconds (by simp)]
  rfl

/-! ## Whole instants -/

/-- The instant lies in the years that instants cover. More than a second of nanoseconds stands for
a second number sixty, which follows second fifty-nine of a minute. -/
structure IsValid (t : Instant) : Prop where
  isCovered : isCovered (Date.ofDays (t.seconds / 86400)).year = true
  nanoseconds : t.nanoseconds < 1000000000 ∨
    t.nanoseconds < 2000000000 ∧ t.seconds % 60 = 59

theorem daysInMonth_le (year : Int) (month : Nat) : daysInMonth year month ≤ 31 := by
  unfold daysInMonth
  repeat' split
  all_goals decide

/-- The second number of an instant, sixty where a second is added to a minute. -/
def secondNumber (t : Instant) : Nat :=
  (t.seconds % 86400).toNat % 60 + if t.isLeapSecond then 1 else 0

theorem read?_text_eq (t : Instant) : read? t.text =
    ofFields? (Date.ofDays (t.seconds / 86400)) ((t.seconds % 86400).toNat / 3600)
      ((t.seconds % 86400).toNat / 60 % 60) t.secondNumber (t.nanoseconds % 1000000000) 0 := by
  have hmonth := (month_ofDays_mem (t.seconds / 86400)).2
  have hday := (day_ofDays_mem (t.seconds / 86400)).2.trans (daysInMonth_le _ _)
  have hsecond : t.secondNumber < 100 := by
    unfold secondNumber
    split <;> omega
  exact read?_parts (by omega) (by omega) (by omega) (by omega) hsecond (by omega)

/-- Reading makes no second number sixty that was not written. -/
theorem regular_of_read?_text {t u : Instant} (h : t.isLeapSecond = false)
    (hread : read? t.text = some u) : u.isLeapSecond = false := by
  have hsecond : t.secondNumber ≠ 60 := by
    rw [secondNumber, h]
    simp only [Bool.false_eq_true, if_false]
    omega
  rw [read?_text_eq, ofFields?, if_neg hsecond] at hread
  split at hread
  · obtain rfl := Option.some.inj hread
    exact isLeapSecond_eq_false_iff.2 (Nat.mod_lt _ (by decide))
  · cases hread

/-- A written instant is read as the instant that it was. -/
theorem read?_text {t : Instant} (h : t.IsValid) : read? t.text = some t := by
  obtain ⟨ofDay, hofDay⟩ := Int.eq_ofNat_of_zero_le
    (Int.emod_nonneg t.seconds (by decide : (86400 : Int) ≠ 0))
  have hsum : t.seconds / 86400 * 86400 + (ofDay / 3600 : Nat) * 3600 +
      (ofDay / 60 % 60 : Nat) * 60 + (ofDay % 60 : Nat) - 0 = t.seconds := by omega
  -- A second number sixty is counted as fifty-nine, and its nanoseconds as those of a second more.
  have hsecond : t.secondNumber ≤ 60 ∧
      t.secondNumber - (if t.secondNumber = 60 then 1 else 0) = ofDay % 60 ∧
      t.nanoseconds % 1000000000 + (if t.secondNumber = 60 then 1 else 0) * 1000000000 =
        t.nanoseconds := by
    have hnanoseconds := h.nanoseconds
    unfold secondNumber isLeapSecond
    rw [hofDay, Int.toNat_natCast]
    simp only [decide_eq_true_eq]
    split
    · have hlast : ofDay % 60 + 1 = 60 := by omega
      rw [hlast, if_pos rfl]
      omega
    · have hnext : ofDay % 60 + 0 ≠ 60 := by omega
      rw [if_neg hnext]
      omega
  rw [read?_text_eq, hofDay, Int.toNat_natCast, ofFields?, toDays_ofDays, hsecond.2.1, hsecond.2.2,
    hsum, isValid_ofDays h.isCovered, h.isCovered]
  have hhour : ofDay / 3600 < 24 := by omega
  have hminute : ofDay / 60 % 60 < 60 := by omega
  simp [hhour, hminute, hsecond.1]

end SealingProxy.Instant

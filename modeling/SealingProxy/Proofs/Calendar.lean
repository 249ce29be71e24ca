import Mathlib.Tactic.IntervalCases
import SealingProxy.Time.Instant
/-! # Days and dates

Four hundred years are a cycle: four centuries, all but the last a day short of twenty-five groups of
four years. The date of a day is a date that exists, and its day is the one it was made of. -/

namespace SealingProxy.Instant

/-! ## Years of a cycle -/

/-- Centuries, groups of four years and days. Only the last century has all its days. -/
theorem exists_parts_of_cycle {r : Int} (h0 : 0 ≤ r) (h1 : r < 146097) : ∃ c g d : Int,
    r = 36524 * c + 1461 * g + d ∧ 0 ≤ c ∧ c ≤ 3 ∧ 0 ≤ g ∧ g ≤ 24 ∧ 0 ≤ d ∧ d ≤ 1460 ∧
      (1461 * g + d < 36524 ∨ c = 3 ∧ g = 24 ∧ d = 1460) := by
  by_cases hlast : r = 146096
  · exact ⟨3, 24, 1460, by omega⟩
  · refine ⟨r / 36524, r % 36524 / 1461, r % 36524 % 1461, ?_⟩
    omega

/-- The estimate of the group of four years is off by one at most, and only late in the group. -/
theorem exists_quarter {c g d : Int} (hc0 : 0 ≤ c) (hc3 : c ≤ 3) (hg0 : 0 ≤ g) (hg24 : g ≤ 24)
    (hd0 : 0 ≤ d) (hd : d ≤ 1460) : ∃ δ : Int, (δ = 1 ∧ 1363 ≤ d ∨ δ = 0 ∧ d < 1460) ∧
      (36524 * c + 1461 * g + d) / 1460 = 25 * c + g + δ := by
  by_cases h : 1460 ≤ 24 * c + g + d
  · exact ⟨1, by omega⟩
  · exact ⟨0, by omega⟩

theorem century_eq {c e : Int} (hc0 : 0 ≤ c) (hc3 : c ≤ 3) (he0 : 0 ≤ e)
    (he : e < 36524 ∨ c = 3 ∧ e = 36524) :
    (36524 * c + e) / 36524 - (36524 * c + e) / 146096 = c := by
  rcases he with he | ⟨rfl, rfl⟩
  · omega
  · decide

/-- The year of a day of the cycle starts on or before that day and is followed by the next one. It
has a day 365 only if the year after it, which starts in its January, is a leap year. -/
theorem of_yearOfCycle {r y : Int} (h0 : 0 ≤ r) (h1 : r < 146097)
    (hy : y = (r - r / 1460 + r / 36524 - r / 146096) / 365) :
    0 ≤ y ∧ y < 400 ∧ 0 ≤ r - (365 * y + y / 4 - y / 100) ∧ r - (365 * y + y / 4 - y / 100) ≤ 365 ∧
      (r - (365 * y + y / 4 - y / 100) = 365 →
        (y + 1) % 4 = 0 ∧ ((y + 1) % 100 ≠ 0 ∨ (y + 1) % 400 = 0)) := by
  obtain ⟨c, g, d, rfl, hc0, hc3, hg0, hg24, hd0, hd, hlast⟩ := exists_parts_of_cycle h0 h1
  obtain ⟨δ, hδ, hquad⟩ := exists_quarter hc0 hc3 hg0 hg24 hd0 hd
  have hcentury := century_eq hc0 hc3 (e := 1461 * g + d) (by omega) (by omega)
  rw [← Int.add_assoc] at hcentury
  have hshift : 36524 * c + 1461 * g + d - (36524 * c + 1461 * g + d) / 1460 +
      (36524 * c + 1461 * g + d) / 36524 - (36524 * c + 1461 * g + d) / 146096 =
        (d - δ) + (100 * c + 4 * g) * 365 := by
    rw [hquad, Int.add_sub_assoc, hcentury]
    omega
  rw [hshift, Int.add_mul_ediv_right _ _ (by decide)] at hy
  clear hshift hquad hcentury
  obtain ⟨a, ha⟩ : ∃ a, a = (d - δ) / 365 := ⟨_, rfl⟩
  rw [← ha] at hy
  have h365 : 0 ≤ a ∧ a ≤ 3 ∧ 365 * a ≤ d ∧ d ≤ 365 * a + 365 ∧ (d = 365 * a + 365 → a = 3) := by
    clear hy
    omega
  clear ha hδ
  have hy4 : y / 4 = 25 * c + g := by omega
  have hy100 : y / 100 = c := by omega
  rw [hy4, hy100]
  refine ⟨by omega, by omega, by omega, by omega, fun h => ?_⟩
  have ha3 : a = 3 := by omega
  subst ha3
  omega

/-! ## Dates of a year that starts with March -/

def Date.ofMarch (year : Int) (days : Nat) : Date :=
  let month := (5 * days + 2) / 153
  { year := if month < 10 then year else year + 1
    month := if month < 10 then month + 3 else month - 9
    day := days - daysBeforeMonth month + 1 }

theorem exists_ofDays_eq (days : Int) : ∃ (era year : Int) (ofYear : Nat),
    Date.ofDays days = Date.ofMarch (era * 400 + year) ofYear ∧
      0 ≤ year ∧ year < 400 ∧ ofYear ≤ 365 ∧
      days + 719468 = era * 146097 + (365 * year + year / 4 - year / 100) + ofYear ∧
      (ofYear = 365 → isLeap (era * 400 + year + 1) = true) := by
  have hr0 : 0 ≤ (days + 719468) % 146097 := by omega
  have hr1 : (days + 719468) % 146097 < 146097 := by omega
  obtain ⟨hy0, hy400, he0, he365, hleap⟩ := of_yearOfCycle hr0 hr1 rfl
  refine ⟨_, _, _, rfl, hy0, hy400, by omega, by omega, fun h => ?_⟩
  have := hleap (by omega)
  simp only [isLeap, Bool.and_eq_true, Bool.or_eq_true, decide_eq_true_eq, bne_iff_ne]
  omega

theorem month_of_day {e : Nat} (he : e ≤ 365) :
    (5 * e + 2) / 153 < 12 ∧ daysBeforeMonth ((5 * e + 2) / 153) ≤ e := by
  unfold daysBeforeMonth
  omega

theorem toDays_ofMarch (year : Int) {e : Nat} (he : e ≤ 365) :
    (Date.ofMarch year e).toDays = year / 400 * 146097 +
      (365 * (year % 400) + year % 400 / 4 - year % 400 / 100) + e - 719468 := by
  obtain ⟨hmonth, hbefore⟩ := month_of_day he
  unfold Date.ofMarch
  generalize (5 * e + 2) / 153 = m at hmonth hbefore
  unfold Date.toDays
  dsimp only
  have hyear : (if (if m < 10 then m + 3 else m - 9) ≤ 2 then
      (if m < 10 then year else year + 1) - 1 else
      (if m < 10 then year else year + 1)) = year := by
    split <;> split <;> omega
  have hback : ((if m < 10 then m + 3 else m - 9) + 9) % 12 = m := by
    split <;> omega
  rw [hyear, hback]
  omega

theorem toDays_ofDays (days : Int) : (Date.ofDays days).toDays = days := by
  obtain ⟨era, year, e, hdate, hy0, hy400, he, hdays, -⟩ := exists_ofDays_eq days
  have hyear : (era * 400 + year) % 400 = year := by omega
  have hera : (era * 400 + year) / 400 = era := by omega
  rw [hdate, toDays_ofMarch _ he, hyear, hera]
  omega

theorem day_le_daysInMonth {year : Int} {e : Nat} (he : e ≤ 365)
    (hleap : e = 365 → isLeap (year + 1) = true) :
    (Date.ofMarch year e).day ≤
      daysInMonth (Date.ofMarch year e).year (Date.ofMarch year e).month := by
  obtain ⟨hmonth, hbefore⟩ := month_of_day he
  obtain ⟨m, hm⟩ : ∃ m, m = (5 * e + 2) / 153 := ⟨_, rfl⟩
  unfold Date.ofMarch
  rw [← hm] at hmonth hbefore ⊢
  cases hlong : isLeap (year + 1)
  · have hshort : e ≠ 365 := fun h => by simp [hleap h] at hlong
    interval_cases m <;> simp [daysInMonth, daysBeforeMonth, hlong] at hbefore ⊢ <;> omega
  · interval_cases m <;> simp [daysInMonth, daysBeforeMonth, hlong] at hbefore ⊢ <;> omega

theorem month_ofDays_mem (days : Int) :
    1 ≤ (Date.ofDays days).month ∧ (Date.ofDays days).month ≤ 12 := by
  obtain ⟨era, year, e, hdate, -, -, he, -⟩ := exists_ofDays_eq days
  have := (month_of_day he).1
  rw [hdate]
  dsimp only [Date.ofMarch]
  split <;> omega

theorem day_ofDays_mem (days : Int) :
    1 ≤ (Date.ofDays days).day ∧ (Date.ofDays days).day ≤
      daysInMonth (Date.ofDays days).year (Date.ofDays days).month := by
  obtain ⟨era, year, e, hdate, -, -, he, -, hleap⟩ := exists_ofDays_eq days
  rw [hdate]
  exact ⟨Nat.le_add_left 1 _, day_le_daysInMonth he hleap⟩

theorem isValid_ofDays {days : Int} (h : isCovered (Date.ofDays days).year = true) :
    (Date.ofDays days).isValid = true := by
  simp [Date.isValid, h, month_ofDays_mem days, day_ofDays_mem days]

/-! ## Between two instants -/

variable {t start : Instant}

theorem isLeapSecond_eq_false_iff : t.isLeapSecond = false ↔ t.nanoseconds < 1000000000 := by
  rw [isLeapSecond, decide_eq_false_iff_not, Nat.not_le]

theorem since_eq_of_regular (ht : t.isLeapSecond = false) (hstart : start.isLeapSecond = false) :
    t.since start = t.ticks - start.ticks := by
  rw [since, ht, hstart]
  exact Int.add_zero _

end SealingProxy.Instant

import FlowGraph.Timestamp
import Mathlib.Tactic.SplitIfs

/-! # The calendar

Dates repeat after an era of 400 years, and a year of an era begins in March, so that a leap day is
its last. `Date.ofDays` finds the year of a day with a single division, for which it takes out the
leap days first.

* `IsDay` says that a day of an era is some day of one of its years; each day is one (`exists_isDay`),
  and `yearOfEra_eq` says that the division finds the year.
* `Date.toDays_ofDays` and `Date.isValid_ofDays` are the laws: the date of a day is one that the
  calendar has, and it belongs to no other day. -/

namespace FlowGraph

namespace Timestamp

theorem isLeapYear_iff {year : Int} :
    isLeapYear year ↔ year % 4 = 0 ∧ (year % 100 ≠ 0 ∨ year % 400 = 0) := by
  simp [isLeapYear]

theorem isLeapYear_add_era (year era : Int) : isLeapYear (year + era * 400) = isLeapYear year := by
  rw [Bool.eq_iff_iff, isLeapYear_iff, isLeapYear_iff]
  omega

theorem daysInMonth_le (year : Int) (month : Nat) : daysInMonth year month ≤ 31 := by
  unfold daysInMonth
  split_ifs <;> omega

/-! ### Days of an era -/

/-- **A day of an era** is a day of one of its years. A year has 366 days only if a leap day ends it,
which then belongs to the next year of the calendar. -/
structure IsDay (dayOfEra yearOfEra dayOfYear : Int) : Prop where
  year : 0 ≤ yearOfEra ∧ yearOfEra < 400
  day : 0 ≤ dayOfYear ∧ dayOfYear ≤ 365
  leap : dayOfYear = 365 → isLeapYear (yearOfEra + 1)
  eq : dayOfEra = 365 * yearOfEra + yearOfEra / 4 - yearOfEra / 100 + dayOfYear

variable {dayOfEra yearOfEra dayOfYear : Int}

/-- The last century of an era has 36525 days, the others have one less. So four years have 1461, but
for the last four of these others. -/
theorem exists_isDay (h : 0 ≤ dayOfEra ∧ dayOfEra < daysPerEra) :
    ∃ yearOfEra dayOfYear, IsDay dayOfEra yearOfEra dayOfYear := by
  unfold daysPerEra at h
  -- `a` centuries, `b` times four years, `c` years and `d` days
  obtain ⟨a, ha⟩ : ∃ a, a = min 3 (dayOfEra / 36524) := ⟨_, rfl⟩
  obtain ⟨b, hb⟩ : ∃ b, b = (dayOfEra - 36524 * a) / 1461 := ⟨_, rfl⟩
  obtain ⟨c, hc⟩ : ∃ c, c = min 3 ((dayOfEra - 36524 * a - 1461 * b) / 365) := ⟨_, rfl⟩
  obtain ⟨d, hd⟩ : ∃ d, d = dayOfEra - 36524 * a - 1461 * b - 365 * c := ⟨_, rfl⟩
  have ha' : 0 ≤ a ∧ a ≤ 3 := by omega
  have hb' : 0 ≤ b ∧ b ≤ 24 := by omega
  have hc' : 0 ≤ c ∧ c ≤ 3 := by omega
  have hd' : 0 ≤ d ∧ d ≤ 365 := by omega
  have hleap : d = 365 → c = 3 ∧ (b = 24 → a = 3) := by omega
  have heq : dayOfEra = 36524 * a + 1461 * b + 365 * c + d := by omega
  clear ha hb hc hd h
  refine ⟨100 * a + 4 * b + c, d, by omega, hd', fun h365 => ?_, by omega⟩
  rw [isLeapYear_iff]
  omega

/-- **The year of a day.** The division takes the leap days out one day too early, but never so that
it changes the year. -/
theorem yearOfEra_eq (h : IsDay dayOfEra yearOfEra dayOfYear) :
    (dayOfEra - dayOfEra / 1460 + dayOfEra / 36524 - dayOfEra / 146096) / 365 = yearOfEra := by
  obtain ⟨hyear, hday, hleap, rfl⟩ := h
  rw [isLeapYear_iff] at hleap
  obtain ⟨a, ha⟩ : ∃ a, a = yearOfEra / 100 := ⟨_, rfl⟩
  obtain ⟨b, hb⟩ : ∃ b, b = yearOfEra % 100 / 4 := ⟨_, rfl⟩
  obtain ⟨c, hc⟩ : ∃ c, c = yearOfEra % 4 := ⟨_, rfl⟩
  obtain rfl : yearOfEra = 100 * a + 4 * b + c := by omega
  have hdays : 365 * (100 * a + 4 * b + c) + (100 * a + 4 * b + c) / 4 - (100 * a + 4 * b + c) / 100 +
      dayOfYear = 36524 * a + 1461 * b + 365 * c + dayOfYear := by omega
  rw [hdays]
  generalize hd : 36524 * a + 1461 * b + 365 * c + dayOfYear = d
  -- the last day of an era is the only one that lies beyond four centuries of equal length
  have hlast : 1461 * b + 365 * c + dayOfYear < 36524 ∨
      (1461 * b + 365 * c + dayOfYear = 36524 ∧ a = 3) := by omega
  rcases hlast with hlast | ⟨hlast, rfl⟩
  · have hcentury : d / 36524 = a := by omega
    have hera : d / 146096 = 0 := by omega
    have hfour : d / 1460 = 25 * a + b + (24 * a + b + 365 * c + dayOfYear) / 1460 := by omega
    omega
  · omega

/-! ### Dates -/

/-- The date of a day of a year that begins in March. -/
def Date.ofDayOfYear (year dayOfYear : Int) : Date :=
  let month := (5 * dayOfYear + 2) / 153
  let day := dayOfYear - (153 * month + 2) / 5 + 1
  let monthOfYear := if month < 10 then month + 3 else month - 9
  ⟨if monthOfYear ≤ 2 then year + 1 else year, monthOfYear.toNat, day.toNat⟩

theorem Date.ofDays_eq (h : IsDay dayOfEra yearOfEra dayOfYear) (era : Int) :
    ofDays (era * daysPerEra + dayOfEra - epochDay) =
      ofDayOfYear (yearOfEra + era * 400) dayOfYear := by
  have hyear := yearOfEra_eq h
  obtain ⟨hofyear, hofday, -, heq⟩ := h
  have hera : (era * daysPerEra + dayOfEra).fdiv daysPerEra = era := by
    rw [Int.fdiv_eq_ediv_of_nonneg _ (by decide)]
    unfold daysPerEra
    omega
  have hrest : era * daysPerEra + dayOfEra - era * daysPerEra = dayOfEra := by omega
  have hday : dayOfEra - (365 * yearOfEra + yearOfEra / 4 - yearOfEra / 100) = dayOfYear := by omega
  unfold ofDays
  simp only [Int.sub_add_cancel, hera, hrest, hyear, hday]
  rfl

theorem Date.toDays_ofDayOfYear (h : IsDay dayOfEra yearOfEra dayOfYear) (era : Int) :
    (ofDayOfYear (yearOfEra + era * 400) dayOfYear).toDays =
      era * daysPerEra + dayOfEra - epochDay := by
  obtain ⟨hyear, hday, -, rfl⟩ := h
  unfold ofDayOfYear toDays
  simp only
  generalize hmonth : (5 * dayOfYear + 2) / 153 = month
  generalize hofyear : (if month < 10 then month + 3 else month - 9) = monthOfYear
  generalize hy : yearOfEra + era * 400 = year
  have hyear' : (if monthOfYear.toNat ≤ 2 then (if monthOfYear ≤ 2 then year + 1 else year) - 1
      else (if monthOfYear ≤ 2 then year + 1 else year)) = year := by
    split_ifs at * <;> omega
  have hmonth' : (if monthOfYear.toNat ≤ 2 then (monthOfYear.toNat : Int) + 9
      else (monthOfYear.toNat : Int) - 3) = month := by
    split_ifs at * <;> omega
  have hera : year.fdiv 400 = era := by
    rw [Int.fdiv_eq_ediv_of_nonneg _ (by decide)]
    omega
  have hrest : year - era * 400 = yearOfEra := by omega
  simp only [hyear', hmonth', hera, hrest]
  omega

/-- Each day is one of some year of some era. -/
theorem Date.exists_era (days : Int) : ∃ era dayOfEra yearOfEra dayOfYear,
    IsDay dayOfEra yearOfEra dayOfYear ∧ days = era * daysPerEra + dayOfEra - epochDay := by
  have hrest : 0 ≤ (days + epochDay) % daysPerEra ∧ (days + epochDay) % daysPerEra < daysPerEra :=
    ⟨Int.emod_nonneg _ (by decide), Int.emod_lt_of_pos _ (by decide)⟩
  obtain ⟨yearOfEra, dayOfYear, h⟩ := exists_isDay hrest
  refine ⟨(days + epochDay) / daysPerEra, _, yearOfEra, dayOfYear, h, ?_⟩
  unfold daysPerEra
  omega

/-- **A day is that of its date.** -/
theorem Date.toDays_ofDays (days : Int) : (ofDays days).toDays = days := by
  obtain ⟨era, dayOfEra, yearOfEra, dayOfYear, h, rfl⟩ := exists_era days
  rw [ofDays_eq h, toDays_ofDayOfYear h]

theorem Date.month_ofDays (days : Int) : 1 ≤ (ofDays days).month ∧ (ofDays days).month ≤ 12 := by
  obtain ⟨era, dayOfEra, yearOfEra, dayOfYear, h, rfl⟩ := exists_era days
  rw [ofDays_eq h]
  have hday := h.day
  unfold ofDayOfYear
  simp only
  split_ifs <;> omega

theorem Date.day_ofDays (days : Int) : 1 ≤ (ofDays days).day ∧
    (ofDays days).day ≤ daysInMonth (ofDays days).year (ofDays days).month := by
  obtain ⟨era, dayOfEra, yearOfEra, dayOfYear, h, rfl⟩ := exists_era days
  rw [ofDays_eq h]
  have hday := h.day
  unfold ofDayOfYear
  simp only
  generalize hmonth : (5 * dayOfYear + 2) / 153 = month
  by_cases hfebruary : month = 11
  · subst hfebruary
    have hleap := h.leap
    rw [← isLeapYear_add_era _ era] at hleap
    have hyear : yearOfEra + 1 + era * 400 = yearOfEra + era * 400 + 1 := by omega
    rw [hyear] at hleap
    change _ ∧ _ ≤ if isLeapYear (yearOfEra + era * 400 + 1) then 29 else 28
    split_ifs with hl
    · omega
    · have hshort : dayOfYear ≠ 365 := fun h365 => hl (hleap h365)
      omega
  · have hother : ¬ (if month < 10 then month + 3 else month - 9).toNat = 2 := by
      split_ifs <;> omega
    simp only [daysInMonth, hother, if_false]
    split_ifs <;> omega

/-- **The calendar has the date of each day** from its first to its last. -/
theorem Date.isValid_ofDays {days : Int} (hfirst : (Date.mk firstYear 1 1).toDays ≤ days)
    (hlast : days ≤ (Date.mk lastYear 12 31).toDays) : (ofDays days).isValid := by
  have hyear : firstYear ≤ (ofDays days).year ∧ (ofDays days).year ≤ lastYear := by
    rw [show (Date.mk firstYear 1 1).toDays = -96465292 from rfl] at hfirst
    rw [show (Date.mk lastYear 12 31).toDays = 95026236 from rfl] at hlast
    obtain ⟨era, dayOfEra, yearOfEra, dayOfYear, h, rfl⟩ := exists_era days
    rw [ofDays_eq h]
    obtain ⟨hyear, hday, hleap, rfl⟩ := h
    unfold ofDayOfYear firstYear lastYear
    unfold daysPerEra epochDay at hfirst hlast
    have hera : -656 ≤ era ∧ era ≤ 655 := by omega
    simp only
    split_ifs <;> omega
  obtain ⟨hm1, hm12⟩ := month_ofDays days
  obtain ⟨hd1, hd⟩ := day_ofDays days
  simp [isValid, hyear.1, hyear.2, hm1, hm12, hd1, hd]

end Timestamp

end FlowGraph

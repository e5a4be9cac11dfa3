/-
The calendar counts days.

Every count of days is a valid date, and the date counts the same days.  The first argument of
`CycleDay` is a day of a cycle of four hundred years, split into centuries, groups of four years,
years and days; only the last year of a group has a day 365.
-/
import DocumentModel.Time.Calendar
import Mathlib.Tactic.IntervalCases

namespace DocumentModel.Time

/-- A day of a cycle of four hundred years, by century, group of four years, year and day. -/
structure CycleDay (n century four year day : Nat) : Prop where
  eq : n = 36524 * century + 1461 * four + 365 * year + day
  century_le : century ≤ 3
  four_le : four ≤ 24
  year_le : year ≤ 3
  day_le : day ≤ 364 ∨ (day = 365 ∧ year = 3 ∧ (four < 24 ∨ century = 3))

namespace CycleDay

theorem exists_of_le {n : Nat} (hn : n ≤ 146096) :
    ∃ century four year day, CycleDay n century four year day := by
  by_cases hlast : n = 146096
  · exact ⟨3, 24, 3, 365, by omega, by omega, by omega, by omega, by omega⟩
  · by_cases hleap : n % 36524 % 1461 = 1460
    · refine ⟨n / 36524, n % 36524 / 1461, 3, 365, ?_, ?_, ?_, ?_, ?_⟩ <;> omega
    · refine ⟨n / 36524, n % 36524 / 1461, n % 36524 % 1461 / 365, n % 36524 % 1461 % 365,
        ?_, ?_, ?_, ?_, ?_⟩ <;> omega

variable {n century four year day : Nat}

/-- The leap days before a day of a cycle, up to one that counts for the day itself. -/
theorem div_1460 (h : CycleDay n century four year day) :
    n / 1460 = 25 * century + four + (24 * century + four + 365 * year + day) / 1460 := by
  rw [h.eq, ← Nat.mul_add_div (by omega : 1460 > 0)]
  congr 1
  omega

/-- Away from the last day of the cycle, whole centuries are exact. -/
theorem centuries (h : CycleDay n century four year day) (hlast : n ≠ 146096) :
    n / 146096 = 0 ∧ n / 36524 = century := by
  obtain ⟨heq, hcentury, hfour, hyear, hday⟩ := h
  omega

theorem years_of_last (h : CycleDay 146096 century four year day) :
    100 * century + 4 * four + year = 399 := by
  obtain ⟨heq, hcentury, hfour, hyear, hday⟩ := h
  omega

/-- Without the leap days before it, a day stands in a year of 365 days. -/
theorem withoutLeapDays (h : CycleDay n century four year day) {spare : Nat}
    (hspare : spare ≤ day) :
    n - (25 * century + four + spare) + century - 0 =
      365 * (100 * century + 4 * four + year) + (day - spare) := by
  have heq := h.eq
  omega

theorem yearOfCycle (h : CycleDay n century four year day) :
    (n - n / 1460 + n / 36524 - n / 146096) / 365 = 100 * century + 4 * four + year := by
  by_cases hlast : n = 146096
  · subst hlast
    rw [h.years_of_last]
  · obtain ⟨hwhole, hcenturies⟩ := h.centuries hlast
    obtain ⟨spare, hspare, hless, hleft⟩ : ∃ spare,
        (24 * century + four + 365 * year + day) / 1460 = spare ∧ spare ≤ day ∧
          (day - spare) / 365 = 0 := by
      obtain ⟨_, hcentury, hfour, hyear, hday⟩ := h
      refine ⟨_, rfl, ?_, ?_⟩ <;> omega
    rw [h.div_1460, hspare, hwhole, hcenturies, h.withoutLeapDays hless,
      Nat.mul_add_div (by omega), hleft, Nat.add_zero]

theorem dayOfYear (h : CycleDay n century four year day) :
    n - (365 * (100 * century + 4 * four + year) + (100 * century + 4 * four + year) / 4 -
      (100 * century + 4 * four + year) / 100) = day := by
  obtain ⟨heq, hcentury, hfour, hyear, hday⟩ := h
  have hfours : (100 * century + 4 * four + year) / 4 = 25 * century + four := by omega
  have hcenturies : (100 * century + 4 * four + year) / 100 = century := by omega
  rw [hfours, hcenturies]
  omega

/-- Day 365 is the leap day at the end of February. -/
theorem isLeapYear (h : CycleDay n century four year 365) (cycle : Int) :
    Date.isLeapYear (cycle * 400 + (100 * century + 4 * four + year : Nat) + 1) = true := by
  obtain ⟨heq, hcentury, hfour, hyear, hday⟩ := h
  simp only [Date.isLeapYear, Bool.and_eq_true, Bool.or_eq_true, decide_eq_true_eq]
  omega

end CycleDay

namespace Date

/-- The calendar month of a month counted from March. -/
def monthOfMarch (march : Nat) : Nat :=
  if march < 10 then march + 3 else march - 9

theorem ofDays_eq {days : Int} {century four year day : Nat}
    (h : CycleDay ((days + 719468) % 146097).toNat century four year day) :
    ofDays days =
      { year := (days + 719468) / 146097 * 400 + (100 * century + 4 * four + year : Nat) +
          (if monthOfMarch ((5 * day + 2) / 153) ≤ 2 then 1 else 0)
        month := monthOfMarch ((5 * day + 2) / 153)
        day := day - (153 * ((5 * day + 2) / 153) + 2) / 5 + 1 } := by
  simp only [ofDays, h.yearOfCycle, h.dayOfYear]
  rfl

theorem exists_cycleDay (days : Int) : ∃ century four year day,
    CycleDay ((days + 719468) % 146097).toNat century four year day :=
  CycleDay.exists_of_le (by omega)

theorem toDays_ofDays (days : Int) : (ofDays days).toDays = days := by
  obtain ⟨century, four, year, day, h⟩ := exists_cycleDay days
  have hmarch : (5 * day + 2) / 153 ≤ 11 := by
    have := h.day_le
    omega
  have hmonth : monthOfMarch ((5 * day + 2) / 153) ≤ 2 ↔ 10 ≤ (5 * day + 2) / 153 := by
    rw [monthOfMarch]
    split <;> omega
  have hback : (if 2 < monthOfMarch ((5 * day + 2) / 153) then
      monthOfMarch ((5 * day + 2) / 153) - 3 else monthOfMarch ((5 * day + 2) / 153) + 9) =
      (5 * day + 2) / 153 := by
    rw [monthOfMarch]
    split <;> split <;> omega
  have hyear : ∀ cycle : Int, (if monthOfMarch ((5 * day + 2) / 153) ≤ 2 then
      cycle * 400 + (100 * century + 4 * four + year : Nat) +
        (if monthOfMarch ((5 * day + 2) / 153) ≤ 2 then 1 else 0) - 1
      else cycle * 400 + (100 * century + 4 * four + year : Nat) +
        (if monthOfMarch ((5 * day + 2) / 153) ≤ 2 then 1 else 0)) =
      cycle * 400 + (100 * century + 4 * four + year : Nat) := by
    intro cycle
    split <;> omega
  have hfour : (100 * century + 4 * four + year) / 4 = 25 * century + four := by
    have := h.year_le
    omega
  have hcentury : (100 * century + 4 * four + year) / 100 = century := by
    have := h.year_le
    have := h.four_le
    omega
  have hcycle : ((days + 719468) / 146097 * 400 + (100 * century + 4 * four + year : Nat)) / 400 =
      (days + 719468) / 146097 := by
    have := h.century_le
    have := h.four_le
    have := h.year_le
    omega
  have hyears : (((days + 719468) / 146097 * 400 +
      (100 * century + 4 * four + year : Nat)) % 400).toNat = 100 * century + 4 * four + year := by
    have := h.century_le
    have := h.four_le
    have := h.year_le
    omega
  rw [ofDays_eq h]
  simp only [toDays, hback, hyear, hcycle, hyears, hfour, hcentury]
  have heq := h.eq
  omega

/-- The length of a month counted from March, the leap day counted where it can fall. -/
theorem day_le_of_march {day march : Nat} (hmarch : march = (5 * day + 2) / 153)
    (hday : day ≤ 365) :
    day - (153 * march + 2) / 5 + 1 ≤
      if monthOfMarch march = 2 then (if day = 365 then 29 else 28)
      else if monthOfMarch march = 4 ∨ monthOfMarch march = 6 ∨ monthOfMarch march = 9 ∨
        monthOfMarch march = 11 then 30 else 31 := by
  have hle : march ≤ 11 := by omega
  interval_cases march <;> simp only [monthOfMarch, Nat.reduceLT, Nat.reduceAdd, Nat.reduceSub,
    ↓reduceIte, Nat.reduceEqDiff, or_false, or_true] <;> first | omega | (split <;> omega)

theorem isValid_ofDays (days : Int) : (ofDays days).isValid = true := by
  obtain ⟨century, four, year, day, h⟩ := exists_cycleDay days
  have hday : day ≤ 365 := by
    have := h.day_le
    omega
  have hmonth : 1 ≤ monthOfMarch ((5 * day + 2) / 153) ∧
      monthOfMarch ((5 * day + 2) / 153) ≤ 12 := by
    rw [monthOfMarch]
    split <;> omega
  have hlength := day_le_of_march rfl hday
  rw [ofDays_eq h]
  simp only [isValid, Bool.and_eq_true, decide_eq_true_eq]
  refine ⟨⟨⟨hmonth.1, hmonth.2⟩, by omega⟩, Nat.le_trans hlength ?_⟩
  rw [monthLength]
  by_cases hfebruary : monthOfMarch ((5 * day + 2) / 153) = 2
  · simp only [hfebruary, ↓reduceIte, Nat.le_refl]
    by_cases hleap : day = 365
    · subst hleap
      rw [h.isLeapYear]
      rfl
    · rw [if_neg hleap]
      split <;> omega
  · simp only [hfebruary, ↓reduceIte, Nat.le_refl]

theorem month_le_of_isValid {date : Date} (hvalid : date.isValid = true) : date.month ≤ 12 := by
  simp only [isValid, Bool.and_eq_true, decide_eq_true_eq] at hvalid
  exact hvalid.1.1.2

theorem day_le_of_isValid {date : Date} (hvalid : date.isValid = true) : date.day ≤ 31 := by
  simp only [isValid, Bool.and_eq_true, decide_eq_true_eq] at hvalid
  have hlength := hvalid.2
  rw [monthLength] at hlength
  split at hlength
  · split at hlength <;> omega
  · split at hlength <;> omega

/-- No day from 1970 on has a year before 1970. -/
theorem year_ofDays_nonneg {days : Int} (hdays : 0 ≤ days) : 0 ≤ (ofDays days).year := by
  obtain ⟨century, four, year, day, h⟩ := exists_cycleDay days
  rw [ofDays_eq h]
  simp only
  split <;> omega

end Date

end DocumentModel.Time

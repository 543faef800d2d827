import PolicyGate.Time.Calendar

/-!
# The days of the calendar

Each day number has a date that exists (`Date.exists_ofDays`) and whose number it is
(`Date.toDays_ofDays`). Both follow from the place of the day in its cycle of 400 years (`IsCycleDay`): so
many full centuries, full spans of four years and full years, and a day in a year that begins with March.
The year of a day is told by the first days of the years (`Date.le_year_ofDays`).
-/

namespace PolicyGate.Time.Date

/-- The day of a cycle behind full centuries, spans of four years and years. The year has a day 365 only
if February, with which it ends, has 29 days. -/
structure IsCycleDay (day century span year dayOfYear : Int) : Prop where
  century_range : 0 ≤ century ∧ century ≤ 3
  span_range : 0 ≤ span ∧ span ≤ 24
  year_range : 0 ≤ year ∧ year ≤ 3
  dayOfYear_range : 0 ≤ dayOfYear ∧ dayOfYear ≤ 365
  leap : dayOfYear = 365 → year = 3 ∧ (span < 24 ∨ century = 3)
  day_eq : day = 36524 * century + 1461 * span + 365 * year + dayOfYear

theorem exists_cycleDay {day : Int} (h : 0 ≤ day ∧ day < daysInCycle) :
    ∃ century span year dayOfYear, IsCycleDay day century span year dayOfYear := by
  unfold daysInCycle at h
  -- the last century and the last year of a span are a day longer
  let century := min (day / 36524) 3
  let inCentury := day - 36524 * century
  let span := inCentury / 1461
  let inSpan := inCentury - 1461 * span
  let year := min (inSpan / 365) 3
  refine ⟨century, span, year, inSpan - 365 * year, ?_, ?_, ?_, ?_, ?_, ?_⟩ <;> omega

variable {day century span year dayOfYear : Int}

theorem IsCycleDay.yearOfCycle (h : IsCycleDay day century span year dayOfYear) :
    (day - day / 1460 + day / 36524 - day / 146096) / 365 = 100 * century + 4 * span + year := by
  obtain ⟨hc, hs, hy, hd, leap, hday⟩ := h
  have centuries : day / 36524 - day / 146096 = century := by
    by_cases last : day = 146096
    · have : century = 3 := by omega
      omega
    · have within : 36524 * century ≤ day ∧ day < 36524 * century + 36524 := by
        by_cases long : dayOfYear = 365
        · obtain ⟨rfl, short | rfl⟩ := leap long <;> omega
        · omega
      have first : day / 36524 = century := by omega
      have none : day / 146096 = 0 := by omega
      omega
  have spans : 25 * century + span + dayOfYear - 364 ≤ day / 1460 ∧
      day / 1460 ≤ 25 * century + span + dayOfYear := by
    by_cases long : dayOfYear = 365
    · obtain ⟨rfl, -⟩ := leap long
      omega
    · omega
  omega

theorem IsCycleDay.dayOfYear_eq (h : IsCycleDay day century span year dayOfYear) :
    day - (365 * (100 * century + 4 * span + year) + (100 * century + 4 * span + year) / 4 -
      (100 * century + 4 * span + year) / 100) = dayOfYear := by
  obtain ⟨hc, hs, hy, -, -, rfl⟩ := h
  omega

/-- The date is the day of a year that begins with March: its month is counted from there, and its day
from the first of that month. January and February belong to the next year. -/
structure IsDayFromMarch (d : Date) (year dayOfYear month : Int) : Prop where
  month_eq : month = (5 * dayOfYear + 2) / 153
  day_eq : d.day = dayOfYear - (153 * month + 2) / 5 + 1
  early_or_late : (0 ≤ month ∧ month < 10 ∧ d.month = month + 3 ∧ d.year = year) ∨
    (10 ≤ month ∧ month ≤ 11 ∧ d.month = month - 9 ∧ d.year = year + 1)

theorem exists_place (days : Int) : ∃ cycle century span year dayOfYear month,
    IsCycleDay (days + cycleOrigin - cycle * daysInCycle) century span year dayOfYear ∧
      IsDayFromMarch (ofDays days) (100 * century + 4 * span + year + cycle * 400) dayOfYear month := by
  have range : 0 ≤ (days + cycleOrigin) % daysInCycle ∧ (days + cycleOrigin) % daysInCycle < daysInCycle := by
    unfold daysInCycle
    omega
  obtain ⟨century, span, year, dayOfYear, h⟩ := exists_cycleDay range
  have day : days + cycleOrigin - (days + cycleOrigin) / daysInCycle * daysInCycle =
      (days + cycleOrigin) % daysInCycle := by
    have := Int.mul_ediv_add_emod (days + cycleOrigin) daysInCycle
    rw [Int.mul_comm] at this
    omega
  refine ⟨(days + cycleOrigin) / daysInCycle, century, span, year, dayOfYear, _, day ▸ h, rfl, ?_, ?_⟩
  · have bound := h.dayOfYear_range
    unfold ofDays
    simp only [h.yearOfCycle, h.dayOfYear_eq]
    omega
  · have bound := h.dayOfYear_range
    unfold ofDays
    simp only [h.yearOfCycle, h.dayOfYear_eq]
    by_cases early : (5 * dayOfYear + 2) / 153 < 10
    · rw [if_pos early, if_neg (by omega)]
      omega
    · rw [if_neg early, if_pos (by omega)]
      omega

theorem toDays_ofDays (days : Int) : (ofDays days).toDays = days := by
  obtain ⟨cycle, century, span, year, dayOfYear, month, h, march⟩ := exists_place days
  obtain ⟨hc, hs, hy, -, -, hday⟩ := h
  unfold daysInCycle cycleOrigin at hday
  obtain ⟨-, day, ⟨first, late, hm, hyear⟩ | ⟨late, last, hm, hyear⟩⟩ := march
  · have rest : ¬(ofDays days).month ≤ 2 := by omega
    unfold toDays daysInCycle cycleOrigin
    simp only [if_neg rest, hyear, hm, day]
    omega
  · have winter : (ofDays days).month ≤ 2 := by omega
    unfold toDays daysInCycle cycleOrigin
    simp only [if_pos winter, hyear, hm, day]
    omega

theorem exists_ofDays (days : Int) : (ofDays days).Exists := by
  obtain ⟨cycle, century, span, year, dayOfYear, month, h, march⟩ := exists_place days
  obtain ⟨hc, hs, hy, hd, leap, hday⟩ := h
  obtain ⟨hmonth, day, ⟨first, late, hm, hyear⟩ | ⟨late, last, hm, hyear⟩⟩ := march
  · refine ⟨by omega, by omega, by omega, ?_⟩
    unfold daysInMonth
    rw [if_neg (by omega)]
    split
    · omega
    · omega
  · refine ⟨by omega, by omega, by omega, ?_⟩
    unfold daysInMonth
    by_cases february : (ofDays days).month = 2
    · rw [if_pos february]
      by_cases long : dayOfYear = 365
      · have : isLeapYear (ofDays days).year = true := by
          obtain ⟨rfl, ends⟩ := leap long
          unfold isLeapYear
          simp only [hyear, Bool.and_eq_true, Bool.or_eq_true, beq_iff_eq, bne_iff_ne]
          omega
        rw [if_pos this]
        omega
      · split <;> omega
    · rw [if_neg february, if_neg (by omega)]
      omega

/-! ## Years -/

def firstDay (year : Int) : Int :=
  toDays ⟨year, 1, 1⟩

theorem firstDay_eq (year : Int) :
    firstDay year = 365 * year + (year - 1) / 4 - (year - 1) / 100 + (year - 1) / 400 - 719527 := by
  unfold firstDay toDays daysInCycle cycleOrigin
  simp only [show (1 : Nat) ≤ 2 by decide, if_true]
  omega

theorem firstDay_le {year other : Int} (h : year ≤ other) : firstDay year ≤ firstDay other := by
  rw [firstDay_eq, firstDay_eq]
  omega

theorem isLeapYear_iff {year : Int} :
    isLeapYear year = true ↔ year % 4 = 0 ∧ (year % 100 ≠ 0 ∨ year % 400 = 0) := by
  simp [isLeapYear]

theorem Exists.toDays_range {d : Date} (h : d.Exists) :
    firstDay d.year ≤ d.toDays ∧ d.toDays < firstDay (d.year + 1) := by
  obtain ⟨hm, hm', hd, hd'⟩ := h
  rw [firstDay_eq, firstDay_eq]
  unfold toDays daysInCycle cycleOrigin
  unfold daysInMonth at hd'
  by_cases february : d.month = 2
  · rw [if_pos february] at hd'
    simp only [if_pos (show d.month ≤ 2 by omega)]
    by_cases leap : isLeapYear d.year = true
    · rw [if_pos leap] at hd'
      rw [isLeapYear_iff] at leap
      omega
    · rw [if_neg leap] at hd'
      omega
  · rw [if_neg february] at hd'
    have last : d.day ≤ 31 := by
      split at hd' <;> omega
    by_cases january : d.month ≤ 2
    · simp only [if_pos january]
      omega
    · simp only [if_neg january]
      omega

theorem le_year_ofDays {year days : Int} : year ≤ (ofDays days).year ↔ firstDay year ≤ days := by
  have range := (exists_ofDays days).toDays_range
  rw [toDays_ofDays] at range
  constructor
  · intro h
    exact Int.le_trans (firstDay_le h) range.1
  · intro h
    refine Decidable.byContradiction fun before => ?_
    have := firstDay_le (show (ofDays days).year + 1 ≤ year by omega)
    omega

end PolicyGate.Time.Date

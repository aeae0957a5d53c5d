import Mathlib.Data.List.Lex
import Mathlib.Tactic.Common

/-!
# The Gregorian calendar

Days are counted from the first day of the first year, the rule of the leap years taken as
it is now for all of them.  The count goes month by month and year by year; the closed form
of it is a theorem (`daysBeforeYear_eq`).  Seconds are counted from the first midnight, and
the count is strictly monotone in the order of the calendar (`seconds_lt_iff`).
-/

namespace FrametimeCfg.Lib.Calendar

/-! ## Days -/

/-- Every fourth year, but of the full centuries only every fourth. -/
def isLeap (year : Nat) : Bool := year % 4 = 0 && (year % 100 ≠ 0 || year % 400 = 0)

/-- The days of a month of a year. -/
def monthLength (year : Nat) : Nat → Nat
  | 2 => if isLeap year then 29 else 28
  | 4 | 6 | 9 | 11 => 30
  | _ => 31

/-- The days of a year before a month, counted month by month. -/
def daysBeforeMonth (year : Nat) : Nat → Nat
  | 0 | 1 => 0
  | month + 2 => daysBeforeMonth year (month + 1) + monthLength year (month + 1)

/-- The days of a year. -/
def yearLength (year : Nat) : Nat := daysBeforeMonth year 13

/-- The days before a year, counted year by year from the first. -/
def daysBeforeYear : Nat → Nat
  | 0 | 1 => 0
  | year + 2 => daysBeforeYear (year + 1) + yearLength (year + 1)

theorem yearLength_eq (year : Nat) : yearLength year = 365 + (isLeap year).toNat := by
  cases h : isLeap year <;> simp [yearLength, daysBeforeMonth, monthLength, h]

/-- **The closed form** of the days before a year. -/
theorem daysBeforeYear_eq (years : Nat) :
    daysBeforeYear (years + 1) + years / 100 = years * 365 + years / 4 + years / 400 := by
  induction years with
  | zero => rfl
  | succ years ih =>
      rw [daysBeforeYear, yearLength_eq]
      cases h : isLeap (years + 1) <;>
        simp only [isLeap, Bool.and_eq_true, Bool.and_eq_false_iff, Bool.or_eq_true,
          Bool.or_eq_false_iff, decide_eq_true_eq, decide_eq_false_iff_not] at h <;>
        simp only [Bool.toNat_true, Bool.toNat_false] <;>
        omega

theorem daysBeforeMonth_succ (year month : Nat) (h : 1 ≤ month) :
    daysBeforeMonth year (month + 1) =
      daysBeforeMonth year month + monthLength year month := by
  obtain ⟨month, rfl⟩ : ∃ m, month = m + 1 := ⟨month - 1, by omega⟩
  rfl

theorem daysBeforeYear_succ (year : Nat) (h : 1 ≤ year) :
    daysBeforeYear (year + 1) = daysBeforeYear year + yearLength year := by
  obtain ⟨year, rfl⟩ : ∃ y, year = y + 1 := ⟨year - 1, by omega⟩
  rfl

/-- A month ends before a later one begins. -/
theorem daysBeforeMonth_lt {year month later : Nat} (hmonth : 1 ≤ month) (h : month < later) :
    daysBeforeMonth year month + monthLength year month ≤ daysBeforeMonth year later := by
  induction later with
  | zero => omega
  | succ later ih =>
      rw [daysBeforeMonth_succ year later (by omega)]
      rcases Nat.lt_or_eq_of_le (Nat.le_of_lt_succ h) with hlt | rfl
      · have hearlier := ih hlt
        omega
      · exact Nat.le_refl _

/-- A year ends before a later one begins. -/
theorem daysBeforeYear_lt {year later : Nat} (hyear : 1 ≤ year) (h : year < later) :
    daysBeforeYear year + yearLength year ≤ daysBeforeYear later := by
  induction later with
  | zero => omega
  | succ later ih =>
      rw [daysBeforeYear_succ later (by omega)]
      rcases Nat.lt_or_eq_of_le (Nat.le_of_lt_succ h) with hlt | rfl
      · have hearlier := ih hlt
        omega
      · exact Nat.le_refl _

/-! ## Moments -/

/-- A second of a day of the calendar. -/
structure Moment where
  year : Nat
  month : Nat
  day : Nat
  hour : Nat
  minute : Nat
  second : Nat
  validYear : 1 ≤ year
  validMonth : 1 ≤ month ∧ month ≤ 12
  validDay : 1 ≤ day ∧ day ≤ monthLength year month
  validHour : hour < 24
  validMinute : minute < 60
  validSecond : second < 60
  deriving DecidableEq

namespace Moment

/-- The days before that of the moment. -/
def days (m : Moment) : Nat :=
  daysBeforeYear m.year + daysBeforeMonth m.year m.month + (m.day - 1)

/-- **The seconds before the moment.** -/
def seconds (m : Moment) : Nat := m.days * 86400 + m.hour * 3600 + m.minute * 60 + m.second

/-- The parts of a moment, the longest first. -/
def fields (m : Moment) : List Nat := [m.year, m.month, m.day, m.hour, m.minute, m.second]

/-- The day lies in its year. -/
theorem days_lt (m : Moment) : m.days < daysBeforeYear m.year + yearLength m.year := by
  have hmonth : daysBeforeMonth m.year m.month + monthLength m.year m.month ≤
      daysBeforeMonth m.year 13 :=
    daysBeforeMonth_lt m.validMonth.1 (Nat.lt_succ_of_le m.validMonth.2)
  have hday := m.validDay
  unfold days yearLength
  omega

theorem seconds_lt_of_days {m n : Moment} (h : m.days < n.days) : m.seconds < n.seconds := by
  have hhour := m.validHour
  have hminute := m.validMinute
  have hsecond := m.validSecond
  unfold seconds
  omega

/-- A later moment has more seconds before it. -/
theorem seconds_lt {m n : Moment} (h : m.fields < n.fields) : m.seconds < n.seconds := by
  simp only [fields, List.cons_lt_cons_iff, List.not_lt_nil, and_false, or_false] at h
  rcases h with hyear | ⟨hyear, hmonth | ⟨hmonth, hday | ⟨hday, htime⟩⟩⟩
  · refine seconds_lt_of_days (Nat.lt_of_lt_of_le m.days_lt ?_)
    have hlater := daysBeforeYear_lt m.validYear hyear
    unfold days
    omega
  · refine seconds_lt_of_days ?_
    have hlater : daysBeforeMonth n.year m.month + monthLength n.year m.month ≤
        daysBeforeMonth n.year n.month := daysBeforeMonth_lt m.validMonth.1 hmonth
    have hvalid := m.validDay
    unfold days
    rw [hyear] at hvalid ⊢
    omega
  · refine seconds_lt_of_days ?_
    have hvalid := m.validDay
    unfold days
    rw [hyear, hmonth]
    omega
  · have hdays : m.days = n.days := by
      unfold days
      rw [hyear, hmonth, hday]
    have hminute := m.validMinute
    have hsecond := m.validSecond
    unfold seconds
    rw [hdays]
    omega

theorem fields_injective {m n : Moment} (h : m.fields = n.fields) : m = n := by
  obtain ⟨⟩ := m
  obtain ⟨⟩ := n
  simpa [fields] using h

/-- **The seconds are in the order of the calendar.** -/
theorem seconds_lt_iff {m n : Moment} : m.seconds < n.seconds ↔ m.fields < n.fields := by
  refine ⟨fun h => ?_, seconds_lt⟩
  rcases lt_trichotomy m.fields n.fields with hlt | heq | hgt
  · exact hlt
  · rw [fields_injective heq] at h
    exact absurd h (Nat.lt_irrefl _)
  · exact absurd (seconds_lt hgt) (Nat.lt_asymm h)

/-- The seconds of the years with at most four digits. -/
theorem seconds_bound {m : Moment} (h : m.year ≤ 9999) : m.seconds < 400000000000 := by
  have hdays := m.days_lt
  have hyears := daysBeforeYear_eq m.year
  have hyear := daysBeforeYear_succ m.year m.validYear
  have hhour := m.validHour
  have hminute := m.validMinute
  have hsecond := m.validSecond
  unfold seconds
  omega

end Moment

end FrametimeCfg.Lib.Calendar

import FrametimeCfg.Domain.DriverEvidence
import FrametimeCfg.Lib.Calendar
import FrametimeCfg.Lib.Numeral
import Mathlib.Data.Option.Basic
import Mathlib.Tactic.IntervalCases

/-!
# The clock of the evidence

The times of the evidence are read from texts of twenty bytes.  What is read is the number
of seconds that the calendar counts, the texts are in the order of their times, and no
arithmetic on the way leaves the range of an `i64`.

* `parseTime_eq_some` — what is read, of which texts.
* `checkedTimestamp_eq` — the same, with every operation checked.
* `evidenceClock` — all of it, and the freshness of a capture.
-/

namespace FrametimeCfg.Verified.EvidenceClock

open FrametimeCfg.Domain
open FrametimeCfg.Lib.Calendar
open FrametimeCfg.Lib.Checks
open FrametimeCfg.Lib.Numeral

/-! ## Digits -/

theorem digitValue_eq_some {byte : UInt8} {v : Int} (h : digitValue byte = some v) :
    ∃ n : Nat, n < 10 ∧ v = n ∧ byte = UInt8.ofNat (48 + n) := by
  rw [digitValue] at h
  split_ifs at h with hrange
  obtain ⟨hlow, hhigh⟩ := hrange
  rw [UInt8.le_iff_toNat_le] at hlow hhigh
  have hlow' : 48 ≤ byte.toNat := hlow
  have hhigh' : byte.toNat ≤ 57 := hhigh
  refine ⟨byte.toNat - 48, by omega, ?_, ?_⟩
  · have hv := Option.some.inj h
    omega
  · rw [Nat.add_sub_cancel' hlow', UInt8.ofNat_toNat]

theorem digitValue_digit {n : Nat} (h : n < 10) :
    digitValue (UInt8.ofNat (48 + n)) = some (n : Int) := by
  have hvalue : (UInt8.ofNat (48 + n)).toNat = 48 + n := by
    rw [UInt8.toNat_ofNat']
    omega
  have hrange : 48 ≤ UInt8.ofNat (48 + n) ∧ UInt8.ofNat (48 + n) ≤ 57 := by
    rw [UInt8.le_iff_toNat_le, UInt8.le_iff_toNat_le, hvalue]
    exact ⟨Nat.le_add_right 48 n, Nat.add_le_add_left (Nat.le_of_lt_succ h) 48⟩
  rw [digitValue, if_pos hrange, hvalue]
  congr 1
  omega

theorem digitsValue_concat (bytes : List UInt8) (byte : UInt8) :
    digitsValue (bytes ++ [byte]) =
      (digitsValue bytes).bind fun value => (digitValue byte).map (value * 10 + ·) := by
  rw [digitsValue, List.foldlM_append]
  cases hbytes : digitsValue bytes with
  | none =>
    rw [digitsValue] at hbytes
    rw [hbytes]
    rfl
  | some value =>
    rw [digitsValue] at hbytes
    rw [hbytes]
    cases hdigit : digitValue byte <;> simp [hdigit]

/-- **The numbers of a range** are its numerals. -/
theorem digitsValue_eq_some {bytes : List UInt8} {v : Int} :
    digitsValue bytes = some v ↔
      ∃ n : Nat, n < 10 ^ bytes.length ∧ v = n ∧ bytes = numeral bytes.length n := by
  induction bytes using List.reverseRecOn generalizing v with
  | nil =>
    constructor
    · intro h
      cases h
      exact ⟨0, by decide, rfl, rfl⟩
    · rintro ⟨n, hn, rfl, -⟩
      rw [List.length_nil, pow_zero] at hn
      have hzero : n = 0 := by omega
      rw [hzero]
      rfl
  | append_singleton bytes byte ih =>
    rw [digitsValue_concat, Option.bind_eq_some_iff, List.length_append, List.length_singleton,
      pow_succ]
    constructor
    · rintro ⟨value, hvalue, hbyte⟩
      obtain ⟨n, hn, rfl, hbytes⟩ := ih.mp hvalue
      obtain ⟨digit, hdigit, rfl⟩ := Option.map_eq_some_iff.mp hbyte
      obtain ⟨d, hd, rfl, rfl⟩ := digitValue_eq_some hdigit
      refine ⟨n * 10 + d, by omega, by omega, ?_⟩
      have htens : (n * 10 + d) / 10 = n := by omega
      have hones : (n * 10 + d) % 10 = d := by omega
      rw [numeral, htens, hones, ← hbytes]
    · rintro ⟨n, hn, rfl, hbytes⟩
      rw [numeral] at hbytes
      obtain ⟨hfirst, hlast⟩ := List.append_inj' hbytes rfl
      refine ⟨(n / 10 : Nat), ih.mpr ⟨n / 10, by omega, rfl, hfirst⟩, ?_⟩
      rw [List.cons.inj hlast |>.1, digitValue_digit (Nat.mod_lt n (by decide))]
      simp only [Option.map_some, Option.some.injEq]
      omega

/-! ## Times -/

/-- A moment of a year that is written with four digits. -/
structure EvidenceMoment extends Moment where
  fourDigits : year ≤ 9999
  deriving DecidableEq

/-- Six parts between the separators of a time. -/
def layout (year month day hour minute second : List UInt8) : List UInt8 :=
  year ++ 45 :: (month ++ 45 :: (day ++ 84 :: (hour ++ 58 :: (minute ++ 58 :: (second ++ [90])))))

/-- `YYYY-MM-DDTHH:MM:SSZ`. -/
def render (m : EvidenceMoment) : List UInt8 :=
  layout (numeral 4 m.year) (numeral 2 m.month) (numeral 2 m.day) (numeral 2 m.hour)
    (numeral 2 m.minute) (numeral 2 m.second)

theorem isLeapYear_eq (year : Nat) : isLeapYear year = isLeap year := by
  rw [isLeapYear, isLeap]
  congr 1
  · exact decide_eq_decide.mpr (by omega)
  · congr 1
    · exact decide_eq_decide.mpr (by omega)
    · exact decide_eq_decide.mpr (by omega)

theorem daysInMonth_eq {year month : Nat} (h : 1 ≤ month ∧ month ≤ 12) :
    daysInMonth year month = some (monthLength year month : Int) := by
  obtain ⟨hlow, hhigh⟩ := h
  rw [daysInMonth, isLeapYear_eq]
  cases hleap : isLeap year <;> interval_cases month <;> simp [monthLength, hleap]

theorem daysInMonth_eq_some {year month : Nat} {days : Int} :
    daysInMonth year month = some days ↔
      (1 ≤ month ∧ month ≤ 12) ∧ days = monthLength year month := by
  by_cases hmonth : 1 ≤ month ∧ month ≤ 12
  · rw [daysInMonth_eq hmonth, Option.some.injEq, eq_comm]
    simp only [hmonth, and_self, true_and]
  · have hnone : daysInMonth year month = none := by
      rw [daysInMonth, if_neg, if_neg, if_neg]
      · omega
      · simp only [List.mem_cons, List.not_mem_nil, or_false]
        omega
      · simp only [List.mem_cons, List.not_mem_nil, or_false]
        omega
    rw [hnone]
    simp [hmonth]

theorem daysInMonth_bound {year month days : Int} (h : daysInMonth year month = some days) :
    (1 ≤ month ∧ month ≤ 12) ∧ days ≤ 31 := by
  rw [daysInMonth] at h
  simp only [List.mem_cons, List.not_mem_nil, or_false] at h
  split_ifs at h <;> cases h <;> omega

/-- The days of a year before a month, from the table. -/
theorem daysBeforeMonth_eq (year : Nat) {month : Nat} (h : 1 ≤ month ∧ month ≤ 12) :
    (daysBeforeMonth year month : Int) =
      MONTH_DAYS[((month : Int) - 1).toNat]?.getD 0 +
        if 2 < (month : Int) ∧ isLeapYear year then 1 else 0 := by
  obtain ⟨hlow, hhigh⟩ := h
  rw [isLeapYear_eq]
  cases hleap : isLeap year <;> interval_cases month <;>
    simp [daysBeforeMonth, monthLength, MONTH_DAYS, hleap]

/-- **The value of a time** is the count of the calendar. -/
theorem secondsOf_eq (m : Moment) :
    secondsOf m.year m.month m.day m.hour m.minute m.second = m.seconds := by
  have hmonth := daysBeforeMonth_eq m.year m.validMonth
  have hyears := daysBeforeYear_eq (m.year - 1)
  have hyear := m.validYear
  rw [Nat.sub_add_cancel hyear] at hyears
  have hday := m.validDay.1
  have hdays : (m.days : Int) = ((m.year : Int) - 1) * 365 + ((m.year : Int) - 1) / 4 -
      ((m.year : Int) - 1) / 100 + ((m.year : Int) - 1) / 400 +
        daysBeforeMonth m.year m.month + m.day - 1 := by
    unfold Moment.days
    omega
  rw [secondsOf, Moment.seconds]
  split_ifs at hmonth ⊢ with hlong <;> omega

/-! ## Shapes -/

/-- What is cut out ends before a byte that is known. -/
theorem drop_eq_slice {bytes : List UInt8} {start stop : Nat} {byte : UInt8}
    (h : bytes[stop]? = some byte) (hle : start ≤ stop) :
    bytes.drop start = slice bytes start stop ++ byte :: bytes.drop (stop + 1) := by
  obtain ⟨hlt, hget⟩ := List.getElem?_eq_some_iff.mp h
  have hstop : bytes.drop stop = byte :: bytes.drop (stop + 1) := by
    rw [← hget]
    exact List.drop_eq_getElem_cons hlt
  have hdrop : (bytes.drop start).drop (stop - start) = bytes.drop stop := by
    rw [List.drop_drop]
    congr 1
    omega
  rw [slice, ← hstop, ← hdrop, List.take_append_drop]

theorem length_slice {bytes : List UInt8} {start stop : Nat} (h : stop ≤ bytes.length) :
    (slice bytes start stop).length = stop - start := by
  rw [slice, List.length_take, List.length_drop]
  omega

/-- A text of the shape is laid out. -/
theorem eq_layout {bytes : List UInt8} (h : timeShape bytes = true) :
    bytes.length = 20 ∧
      bytes = layout (slice bytes 0 4) (slice bytes 5 7) (slice bytes 8 10) (slice bytes 11 13)
        (slice bytes 14 16) (slice bytes 17 19) := by
  simp only [timeShape, SEPARATORS, List.all_cons, List.all_nil, Bool.and_eq_true,
    decide_eq_true_eq, and_true] at h
  obtain ⟨hlength, hyear, hmonth, hday, hhour, hminute, hsecond⟩ := h
  refine ⟨hlength, ?_⟩
  have hend : bytes.drop 20 = [] := List.drop_eq_nil_of_le (Nat.le_of_eq hlength)
  calc bytes
      = bytes.drop 0 := rfl
    _ = _ := by
      rw [drop_eq_slice hyear (by decide), drop_eq_slice hmonth (by decide),
        drop_eq_slice hday (by decide), drop_eq_slice hhour (by decide),
        drop_eq_slice hminute (by decide), drop_eq_slice hsecond (by decide), hend, layout]

section Layout

variable {year month day hour minute second : List UInt8}

/-- The parts of a text that is laid out. -/
theorem slices_layout (hyear : year.length = 4) (hmonth : month.length = 2)
    (hday : day.length = 2) (hhour : hour.length = 2) (hminute : minute.length = 2)
    (hsecond : second.length = 2) :
    timeShape (layout year month day hour minute second) = true ∧
    slice (layout year month day hour minute second) 0 4 = year ∧
    slice (layout year month day hour minute second) 5 7 = month ∧
    slice (layout year month day hour minute second) 8 10 = day ∧
    slice (layout year month day hour minute second) 11 13 = hour ∧
    slice (layout year month day hour minute second) 14 16 = minute ∧
    slice (layout year month day hour minute second) 17 19 = second := by
  obtain ⟨y, z, w, x, rfl⟩ := List.length_eq_four.mp hyear
  obtain ⟨_, _, rfl⟩ := List.length_eq_two.mp hmonth
  obtain ⟨_, _, rfl⟩ := List.length_eq_two.mp hday
  obtain ⟨_, _, rfl⟩ := List.length_eq_two.mp hhour
  obtain ⟨_, _, rfl⟩ := List.length_eq_two.mp hminute
  obtain ⟨_, _, rfl⟩ := List.length_eq_two.mp hsecond
  exact ⟨rfl, rfl, rfl, rfl, rfl, rfl, rfl⟩

end Layout

theorem digitsValue_numeral {width n : Nat} (h : n < 10 ^ width) :
    digitsValue (numeral width n) = some (n : Int) := by
  refine digitsValue_eq_some.mpr ⟨n, ?_, rfl, ?_⟩ <;> rw [length_numeral]
  exact h

theorem digitsValue_slice {bytes : List UInt8} {start stop : Nat} {v : Int}
    (h : digitsValue (slice bytes start stop) = some v) (hle : stop ≤ bytes.length) :
    ∃ n : Nat, n < 10 ^ (stop - start) ∧ v = n ∧
      slice bytes start stop = numeral (stop - start) n := by
  have hnumeral := digitsValue_eq_some.mp h
  rwa [length_slice hle] at hnumeral

theorem monthLength_le (year month : Nat) : monthLength year month ≤ 31 := by
  unfold monthLength
  split
  · split <;> omega
  · omega
  · omega
  · omega
  · omega
  · omega

/-- The parts of a moment fit their numerals. -/
structure Fits (m : EvidenceMoment) : Prop where
  year : m.year < 10 ^ 4
  month : m.month < 10 ^ 2
  day : m.day < 10 ^ 2
  hour : m.hour < 10 ^ 2
  minute : m.minute < 10 ^ 2
  second : m.second < 10 ^ 2

theorem fits (m : EvidenceMoment) : Fits m where
  year := Nat.lt_succ_of_le m.fourDigits
  month := Nat.lt_of_le_of_lt m.validMonth.2 (by decide)
  day := Nat.lt_of_le_of_lt (Nat.le_trans m.validDay.2 (monthLength_le m.year m.month)) (by decide)
  hour := Nat.lt_trans m.validHour (by decide)
  minute := Nat.lt_trans m.validMinute (by decide)
  second := Nat.lt_trans m.validSecond (by decide)

theorem parseTime_render (m : EvidenceMoment) : parseTime (render m) = some (m.seconds : Int) := by
  have hfits := fits m
  obtain ⟨hshape, h₁, h₂, h₃, h₄, h₅, h₆⟩ := slices_layout (length_numeral 4 m.year)
    (length_numeral 2 m.month) (length_numeral 2 m.day) (length_numeral 2 m.hour)
    (length_numeral 2 m.minute) (length_numeral 2 m.second)
  have hvalid : (!((m.year : Int) = 0 || (m.day : Int) = 0 ||
      (monthLength m.year m.month : Int) < m.day || 23 < (m.hour : Int) ||
      59 < (m.minute : Int) || 59 < (m.second : Int))) = true := by
    have hpositive := m.validYear
    have hdays := m.validDay
    have hhours := m.validHour
    have hminutes := m.validMinute
    have hseconds := m.validSecond
    simp only [Bool.not_eq_true', Bool.or_eq_false_iff, decide_eq_false_iff_not]
    omega
  rw [render, parseTime, hshape, h₁, h₂, h₃, h₄, h₅, h₆, digitsValue_numeral hfits.year,
    digitsValue_numeral hfits.month, digitsValue_numeral hfits.day,
    digitsValue_numeral hfits.hour, digitsValue_numeral hfits.minute,
    digitsValue_numeral hfits.second]
  simp only [guard, if_true, Option.pure_def, Option.bind_eq_bind, Option.bind_some,
    daysInMonth_eq m.validMonth, hvalid, secondsOf_eq]

/-- **What is read**: the renderings of the moments, as their counts of seconds. -/
theorem parseTime_eq_some {bytes : List UInt8} {t : Int} :
    parseTime bytes = some t ↔
      ∃ m : EvidenceMoment, bytes = render m ∧ t = m.seconds := by
  constructor
  · intro h
    simp only [parseTime, Option.bind_eq_bind, Option.bind_eq_some_iff, Option.guard_eq_some',
      Option.pure_def] at h
    obtain ⟨_, hshape, year, hyear, month, hmonth, day, hday, hour, hhour, minute, hminute,
      second, hsecond, days, hlast, _, hvalid, ht⟩ := h
    obtain ⟨hlength, hbytes⟩ := eq_layout hshape
    obtain ⟨year, hfour, rfl, hyears⟩ := digitsValue_slice hyear (by omega)
    obtain ⟨month, _, rfl, hmonths⟩ := digitsValue_slice hmonth (by omega)
    obtain ⟨day, _, rfl, hdays⟩ := digitsValue_slice hday (by omega)
    obtain ⟨hour, _, rfl, hhours⟩ := digitsValue_slice hhour (by omega)
    obtain ⟨minute, _, rfl, hminutes⟩ := digitsValue_slice hminute (by omega)
    obtain ⟨second, _, rfl, hseconds⟩ := digitsValue_slice hsecond (by omega)
    obtain ⟨hcalendar, rfl⟩ := daysInMonth_eq_some.mp hlast
    simp only [Bool.not_eq_true', Bool.or_eq_false_iff, decide_eq_false_iff_not] at hvalid
    let m : EvidenceMoment :=
      { year := year, month := month, day := day, hour := hour, minute := minute,
        second := second, validYear := by omega, validMonth := hcalendar,
        validDay := by omega, validHour := by omega, validMinute := by omega,
        validSecond := by omega, fourDigits := Nat.le_of_lt_succ hfour }
    refine ⟨m, ?_, ?_⟩
    · rw [hbytes, hyears, hmonths, hdays, hhours, hminutes, hseconds]
      rfl
    · rw [← Option.some.inj ht]
      exact secondsOf_eq m.toMoment
  · rintro ⟨m, rfl, rfl⟩
    exact parseTime_render m

theorem parseTime_bound {bytes : List UInt8} {t : Int} (h : parseTime bytes = some t) :
    0 ≤ t ∧ t < 400000000000 := by
  obtain ⟨m, -, rfl⟩ := parseTime_eq_some.mp h
  have hbound := Moment.seconds_bound m.fourDigits
  omega

/-! ## The order of the texts -/

/-- **The texts are in the order of their times.** -/
theorem render_lt_iff {m n : EvidenceMoment} : render m < render n ↔ m.seconds < n.seconds := by
  have hm := fits m
  have hn := fits n
  rw [Moment.seconds_lt_iff, render, render, layout, layout,
    numeral_append_cons_lt_iff hm.year hn.year, numeral_append_cons_lt_iff hm.month hn.month,
    numeral_append_cons_lt_iff hm.day hn.day, numeral_append_cons_lt_iff hm.hour hn.hour,
    numeral_append_cons_lt_iff hm.minute hn.minute,
    numeral_append_cons_lt_iff hm.second hn.second]
  simp only [Moment.fields, List.cons_lt_cons_iff, List.not_lt_nil, and_false, or_false]

/-! ## Arithmetic in an `i64` -/

/-- Why a checked computation stops. -/
inductive Fault where
  | overflow
  | refused (error : ValidationError)

/-- The result of an operation on `i64` values. -/
def checked (value : Int) : Except Fault Int :=
  if -9223372036854775808 ≤ value ∧ value ≤ 9223372036854775807 then .ok value
  else .error .overflow

/-- `digitsValue`, checked. -/
def checkedDigits (error : ValidationError) (bytes : List UInt8) : Except Fault Int :=
  bytes.foldlM (fun value byte => do
    let digit ← okOr (digitValue byte) (.refused error)
    let tens ← checked (value * 10)
    checked (tens + digit)) 0

/-- `secondsOf`, checked. -/
def checkedSeconds (year month day hour minute second : Int) : Except Fault Int := do
  let completed ← checked (year - 1)
  let days ← checked (completed * 365)
  let days ← checked (days + completed / 4)
  let days ← checked (days - completed / 100)
  let daysBeforeYear ← checked (days + completed / 400)
  let index ← checked (month - 1)
  let days ← checked (daysBeforeYear + MONTH_DAYS[index.toNat]?.getD 0)
  let days ← checked (days + day)
  let days ← checked (days - 1)
  let days ← (if 2 < month ∧ isLeapYear year then checked (days + 1) else .ok days)
  let seconds ← checked (days * 86400)
  let hours ← checked (hour * 3600)
  let seconds ← checked (seconds + hours)
  let minutes ← checked (minute * 60)
  let seconds ← checked (seconds + minutes)
  checked (seconds + second)

/-- `timestamp`, checked. -/
def checkedTime (value field : String) : Except Fault Int := do
  let bytes := value.toUTF8.data.toList
  let error := ValidationError.invalid field
  reject (!timeShape bytes) (.refused error)
  let year ← checkedDigits error (slice bytes 0 4)
  let month ← checkedDigits error (slice bytes 5 7)
  let day ← checkedDigits error (slice bytes 8 10)
  let hour ← checkedDigits error (slice bytes 11 13)
  let minute ← checkedDigits error (slice bytes 14 16)
  let second ← checkedDigits error (slice bytes 17 19)
  let days ← okOr (daysInMonth year month) (.refused error)
  reject (year = 0 || day = 0 || days < day || 23 < hour || 59 < minute || 59 < second)
    (.refused error)
  checkedSeconds year month day hour minute second

/-- `validate_capture_at`, checked. -/
def checkedCaptureAt (policy : CaptureFreshnessPolicy) (capturedAtUtc nowUtc : String) :
    Except Fault Unit := do
  reject (policy.maximumAgeSeconds = 0) (.refused (.invalid "maximumAgeSeconds"))
  let captured ← checkedTime capturedAtUtc "capturedAtUtc"
  let now ← checkedTime nowUtc "nowUtc"
  let age ← checked (now - captured)
  reject (age < 0 || policy.limit < age) (.refused .staleCapture)

theorem checked_eq {value : Int} (hlow : -9223372036854775808 ≤ value)
    (hhigh : value ≤ 9223372036854775807) : checked value = .ok value :=
  if_pos ⟨hlow, hhigh⟩

/-- The digits of a short range are read without an overflow. -/
theorem checkedDigits_eq (error : ValidationError) {bytes : List UInt8}
    (h : bytes.length ≤ 18) :
    checkedDigits error bytes = okOr (digitsValue bytes) (.refused error) := by
  induction bytes using List.reverseRecOn with
  | nil => rfl
  | append_singleton bytes byte ih =>
    rw [List.length_append, List.length_singleton] at h
    have hfirst := ih (by omega)
    rw [checkedDigits] at hfirst
    rw [digitsValue_concat, checkedDigits, List.foldlM_append, hfirst]
    cases hvalue : digitsValue bytes with
    | none => rfl
    | some value =>
      obtain ⟨n, hn, rfl, -⟩ := digitsValue_eq_some.mp hvalue
      have hsmall : n < 10 ^ 17 :=
        Nat.lt_of_lt_of_le hn (Nat.pow_le_pow_right (by decide) (by omega))
      have hten : (10 : Nat) ^ 17 = 100000000000000000 := by decide
      rw [hten] at hsmall
      cases hdigit : digitValue byte with
      | none => simp [hdigit]
      | some digit =>
        obtain ⟨d, hd, rfl, -⟩ := digitValue_eq_some hdigit
        simp only [okOr_some, List.foldlM_cons, List.foldlM_nil, hdigit, bind_ok,
          Option.bind_some, Option.map_some]
        rw [checked_eq (by omega) (by omega), bind_ok, checked_eq (by omega) (by omega)]
        rfl

theorem table_bound (place : Nat) :
    0 ≤ MONTH_DAYS[place]?.getD 0 ∧ MONTH_DAYS[place]?.getD 0 ≤ 334 := by
  cases hday : MONTH_DAYS[place]? with
  | none => decide
  | some days =>
    have hall : ∀ days ∈ MONTH_DAYS, 0 ≤ days ∧ days ≤ 334 := by decide
    exact hall days (List.mem_of_getElem? hday)

/-- The seconds are counted without an overflow. -/
theorem checkedSeconds_eq {year month day hour minute second : Int}
    (hyear : 1 ≤ year ∧ year ≤ 9999) (hmonth : 1 ≤ month ∧ month ≤ 12)
    (hday : 0 ≤ day ∧ day ≤ 31) (hhour : 0 ≤ hour ∧ hour ≤ 23)
    (hminute : 0 ≤ minute ∧ minute ≤ 59) (hsecond : 0 ≤ second ∧ second ≤ 59) :
    checkedSeconds year month day hour minute second =
      .ok (secondsOf year month day hour minute second) := by
  obtain ⟨hlow, hhigh⟩ := table_bound (month - 1).toNat
  rw [checkedSeconds, secondsOf]
  rw [checked_eq (by omega) (by omega), bind_ok, checked_eq (by omega) (by omega), bind_ok,
    checked_eq (by omega) (by omega), bind_ok, checked_eq (by omega) (by omega), bind_ok,
    checked_eq (by omega) (by omega), bind_ok, checked_eq (by omega) (by omega), bind_ok,
    checked_eq (by omega) (by omega), bind_ok, checked_eq (by omega) (by omega), bind_ok,
    checked_eq (by omega) (by omega), bind_ok]
  split_ifs with hlong
  · rw [checked_eq (by omega) (by omega), bind_ok, checked_eq (by omega) (by omega), bind_ok,
      checked_eq (by omega) (by omega), bind_ok, checked_eq (by omega) (by omega), bind_ok,
      checked_eq (by omega) (by omega), bind_ok, checked_eq (by omega) (by omega), bind_ok,
      checked_eq (by omega) (by omega)]
  · rw [bind_ok, checked_eq (by omega) (by omega), bind_ok, checked_eq (by omega) (by omega),
      bind_ok, checked_eq (by omega) (by omega), bind_ok, checked_eq (by omega) (by omega),
      bind_ok, checked_eq (by omega) (by omega), bind_ok, checked_eq (by omega) (by omega)]

theorem okOr_bind {ε α β : Type} (o : Option α) (k : α → Option β) (e : ε) :
    okOr (o.bind k) e = okOr o e >>= fun a => okOr (k a) e := by
  cases o <;> rfl

theorem okOr_guard {ε : Type} (c : Bool) (e : ε) :
    okOr (guard (!c) : Option Unit) e = reject c e := by
  cases c <;> rfl

theorem bind_congr_ok {ε α β : Type} {m : Except ε α} {f g : α → Except ε β}
    (h : ∀ a, m = .ok a → f a = g a) : m >>= f = m >>= g := by
  cases m with
  | error e => rfl
  | ok a => exact h a rfl

/-- The number of a range, with the bound of its length. -/
theorem digits_bound {bytes : List UInt8} {start stop : Nat} {e : Fault} {v : Int}
    (h : okOr (digitsValue (slice bytes start stop)) e = .ok v) :
    0 ≤ v ∧ v < 10 ^ (stop - start) := by
  obtain ⟨n, hn, rfl, -⟩ := digitsValue_eq_some.mp (okOr_eq_ok.mp h)
  have hlength : (slice bytes start stop).length ≤ stop - start := by
    rw [slice, List.length_take]
    exact Nat.min_le_left _ _
  have hle := Nat.lt_of_lt_of_le hn (Nat.pow_le_pow_right (by decide) hlength)
  exact ⟨Int.natCast_nonneg n, by exact_mod_cast hle⟩

theorem checkedDigits_slice (error : ValidationError) (bytes : List UInt8) {start stop : Nat}
    (h : stop - start ≤ 18) :
    checkedDigits error (slice bytes start stop) =
      okOr (digitsValue (slice bytes start stop)) (.refused error) := by
  refine checkedDigits_eq error (Nat.le_trans ?_ h)
  rw [slice, List.length_take]
  exact Nat.min_le_left _ _

/-- **No time overflows** as it is read. -/
theorem checkedTime_eq (value field : String) :
    checkedTime value field =
      okOr (parseTime value.toUTF8.data.toList) (.refused (.invalid field)) := by
  rw [checkedTime, parseTime]
  rw [checkedDigits_slice _ _ (by decide : 4 - 0 ≤ 18),
    checkedDigits_slice _ _ (by decide : 7 - 5 ≤ 18),
    checkedDigits_slice _ _ (by decide : 10 - 8 ≤ 18),
    checkedDigits_slice _ _ (by decide : 13 - 11 ≤ 18),
    checkedDigits_slice _ _ (by decide : 16 - 14 ≤ 18),
    checkedDigits_slice _ _ (by decide : 19 - 17 ≤ 18)]
  simp only [Option.bind_eq_bind, okOr_bind]
  -- Both read the same parts; only the last step needs what was checked before it.
  have hguard : okOr (guard (timeShape value.toUTF8.data.toList) : Option Unit)
      (Fault.refused (.invalid field)) =
      reject (!timeShape value.toUTF8.data.toList) (.refused (.invalid field)) := by
    cases timeShape value.toUTF8.data.toList <;> rfl
  rw [hguard]
  refine bind_congr_ok fun _ _ => bind_congr_ok fun year hyear => bind_congr_ok fun month _ =>
    bind_congr_ok fun day hday => bind_congr_ok fun hour hhour =>
    bind_congr_ok fun minute hminute => bind_congr_ok fun second hsecond =>
    bind_congr_ok fun days hdays => ?_
  rw [okOr_guard]
  refine bind_congr_ok fun _ hvalid => ?_
  have hyears := digits_bound hyear
  have hday := digits_bound hday
  have hhours := digits_bound hhour
  have hminutes := digits_bound hminute
  have hseconds := digits_bound hsecond
  have hmonth := daysInMonth_bound (okOr_eq_ok.mp hdays)
  simp only [reject_eq_ok, Bool.or_eq_false_iff, decide_eq_false_iff_not] at hvalid
  exact checkedSeconds_eq (by omega) hmonth.1 (by omega) (by omega) (by omega) (by omega)

/-- `CaptureFreshnessPolicy.validateCaptureAt` computes with the values of an `i64` alone. -/
theorem checkedCaptureAt_eq (policy : CaptureFreshnessPolicy) (capturedAtUtc nowUtc : String) :
    checkedCaptureAt policy capturedAtUtc nowUtc =
      (policy.validateCaptureAt capturedAtUtc nowUtc).mapError .refused := by
  rw [checkedCaptureAt, CaptureFreshnessPolicy.validateCaptureAt, checkedTime_eq,
    checkedTime_eq, evidenceTime, evidenceTime]
  by_cases hmaximum : policy.maximumAgeSeconds = 0
  · simp only [hmaximum, decide_true, reject_true, bind_error]
    rfl
  · simp only [hmaximum, decide_false, reject_false, bind_ok]
    cases hcaptured : parseTime capturedAtUtc.toUTF8.data.toList with
    | none => rfl
    | some captured =>
      cases hnow : parseTime nowUtc.toUTF8.data.toList with
      | none => rfl
      | some now =>
        have hearlier := parseTime_bound hcaptured
        have hlater := parseTime_bound hnow
        simp only [okOr_some, bind_ok]
        rw [checked_eq (by omega) (by omega), bind_ok]
        cases decide (now - captured < 0) || decide (policy.limit < now - captured) <;> rfl

/-! ## The freshness of a capture -/

/-- A capture is fresh when both times are read and their distance is allowed. -/
theorem validateCaptureAt_eq_ok {policy : CaptureFreshnessPolicy}
    {capturedAtUtc nowUtc : String} :
    policy.validateCaptureAt capturedAtUtc nowUtc = .ok () ↔
      policy.maximumAgeSeconds ≠ 0 ∧
      ∃ captured now : EvidenceMoment,
        capturedAtUtc.toUTF8.data.toList = render captured ∧
        nowUtc.toUTF8.data.toList = render now ∧
        captured.seconds ≤ now.seconds ∧
        now.seconds - captured.seconds ≤ policy.maximumAgeSeconds.toNat := by
  have hlimit (captured now : EvidenceMoment) :
      (0 ≤ (now.seconds : Int) - captured.seconds ∧
        (now.seconds : Int) - captured.seconds ≤ policy.limit) ↔
      captured.seconds ≤ now.seconds ∧
        now.seconds - captured.seconds ≤ policy.maximumAgeSeconds.toNat := by
    have hnow := Moment.seconds_bound now.fourDigits
    have hmaximum : (2 : Int) ^ 63 - 1 = 9223372036854775807 := by decide
    rw [CaptureFreshnessPolicy.limit, hmaximum]
    omega
  simp only [CaptureFreshnessPolicy.validateCaptureAt, evidenceTime, bind_eq_ok, reject_eq_ok,
    okOr_eq_ok, parseTime_eq_some, decide_eq_false_iff_not, Bool.or_eq_false_iff, not_lt]
  constructor
  · rintro ⟨_, hmaximum, _, ⟨captured, hcaptured, rfl⟩, _, ⟨now, hnow, rfl⟩, hage⟩
    exact ⟨hmaximum, captured, now, hcaptured, hnow, (hlimit captured now).mp hage⟩
  · rintro ⟨hmaximum, captured, now, hcaptured, hnow, hage⟩
    exact ⟨(), hmaximum, _, ⟨captured, hcaptured, rfl⟩, _, ⟨now, hnow, rfl⟩,
      (hlimit captured now).mpr hage⟩

/-- **The clock of the evidence is exact.**  Of all texts the renderings of the moments are
read, as the seconds the calendar counts; both the texts and the seconds are in the order of
the calendar; a capture is accepted for the distance of its moments; and an `i64` holds every
number on the way. -/
theorem evidenceClock :
    (∀ (bytes : List UInt8) (t : Int), parseTime bytes = some t ↔
      ∃ m : EvidenceMoment, bytes = render m ∧ t = m.seconds) ∧
    (∀ m n : EvidenceMoment, (m.seconds < n.seconds ↔ m.fields < n.fields) ∧
      (m.seconds < n.seconds ↔ render m < render n)) ∧
    (∀ (policy : CaptureFreshnessPolicy) (capturedAtUtc nowUtc : String),
      policy.validateCaptureAt capturedAtUtc nowUtc = .ok () ↔
        policy.maximumAgeSeconds ≠ 0 ∧
        ∃ captured now : EvidenceMoment,
          capturedAtUtc.toUTF8.data.toList = render captured ∧
          nowUtc.toUTF8.data.toList = render now ∧
          captured.seconds ≤ now.seconds ∧
          now.seconds - captured.seconds ≤ policy.maximumAgeSeconds.toNat) ∧
    (∀ value field : String, checkedTime value field =
      (evidenceTime value field).mapError .refused) ∧
    ∀ (policy : CaptureFreshnessPolicy) (capturedAtUtc nowUtc : String),
      checkedCaptureAt policy capturedAtUtc nowUtc =
        (policy.validateCaptureAt capturedAtUtc nowUtc).mapError .refused := by
  refine ⟨fun _ _ => parseTime_eq_some, fun m n => ⟨Moment.seconds_lt_iff, render_lt_iff.symm⟩,
    fun _ _ _ => validateCaptureAt_eq_ok, fun value field => ?_, checkedCaptureAt_eq⟩
  rw [checkedTime_eq, evidenceTime]
  cases parseTime value.toUTF8.data.toList <;> rfl

end FrametimeCfg.Verified.EvidenceClock

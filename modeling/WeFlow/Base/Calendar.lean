import Mathlib.Algebra.Order.Group.Nat
import Mathlib.Tactic.SplitIfs
import WeFlow.Base.Decimal

/-!
# `Calendar` — the minutes of the calendar

A minute of the proleptic Gregorian calendar, as a date and a time of day with their ranges. Its numeral text
has one width for each part, so that texts are in the order of the minutes.

## Contents

* `CalendarMinute` — the fields, and `minutes`, their number since the year 0 began.
* `minutes_lt_iff` — minutes are in the order of their fields.
* `CalendarMinute.text`, `text_lt_iff` — the text, and its order.
-/

namespace WeFlow

/-! ## The calendar -/

def isLeap (year : Nat) : Bool := year % 4 = 0 ∧ (year % 100 ≠ 0 ∨ year % 400 = 0)

/-- The days between the first days of the year 0 and of a year. -/
def daysBeforeYear (year : Nat) : Nat := year * 365 + (year + 3) / 4 - (year + 99) / 100 + (year + 399) / 400

def daysInMonth (year month : Nat) : Nat :=
  if month = 2 then if isLeap year then 29 else 28
  else if month = 4 ∨ month = 6 ∨ month = 9 ∨ month = 11 then 30
  else 31

/-- The days between the first days of a year and of one of its months. -/
def daysBeforeMonth (year : Nat) : Nat → Nat
  | 0 => 0
  | 1 => 0
  | month + 1 => daysBeforeMonth year month + daysInMonth year month

/-- A minute of the years that four digits write. -/
structure CalendarMinute where
  year : Nat
  month : Nat
  day : Nat
  hour : Nat
  minute : Nat
  year_lt : year < 10000
  month_range : 1 ≤ month ∧ month ≤ 12
  day_range : 1 ≤ day ∧ day ≤ daysInMonth year month
  hour_lt : hour < 24
  minute_lt : minute < 60

namespace CalendarMinute

/-- A full hour of the first day of 2026. -/
def newYearsDay (hour : Nat) (hlt : hour < 24) : CalendarMinute where
  year := 2026
  month := 1
  day := 1
  hour := hour
  minute := 0
  year_lt := by decide
  month_range := by decide
  day_range := by decide
  hour_lt := hlt
  minute_lt := by decide

def days (a : CalendarMinute) : Nat := daysBeforeYear a.year + daysBeforeMonth a.year a.month + a.day

/-- The number of a minute. -/
def minutes (a : CalendarMinute) : Nat := a.days * 1440 + a.hour * 60 + a.minute

/-- `%04d-%02d-%02d`. -/
def dateText (a : CalendarMinute) : List Char :=
  padded 4 a.year ++ ('-' :: (padded 2 a.month ++ ('-' :: padded 2 a.day)))

/-- The date and `%02d:%02d`, with a character between them. -/
def text (a : CalendarMinute) (separator : Char) : List Char :=
  a.dateText ++ (separator :: (padded 2 a.hour ++ (':' :: padded 2 a.minute)))

end CalendarMinute

/-! ## The order of the minutes -/

/-- A month's days are counted when a later month begins. -/
theorem daysBeforeMonth_add (year : Nat) {month later : Nat} (hfirst : 1 ≤ month) (hlt : month < later) :
    daysBeforeMonth year month + daysInMonth year month ≤ daysBeforeMonth year later := by
  induction later with
  | zero => omega
  | succ previous ih =>
    have hstep : daysBeforeMonth year (previous + 1) = daysBeforeMonth year previous + daysInMonth year previous := by
      obtain ⟨n, rfl⟩ : ∃ n, previous = n + 1 := ⟨previous - 1, by omega⟩
      rfl
    by_cases hmonth : month = previous
    · rw [hstep, hmonth]
    · have := ih (by omega)
      omega

/-- The year's days end with December's. -/
theorem daysBeforeMonth_le (year : Nat) {month : Nat} (hmonth : 1 ≤ month ∧ month ≤ 12) :
    daysBeforeMonth year month + daysInMonth year month ≤ 365 + (if isLeap year then 1 else 0) := by
  have hdecember : daysBeforeMonth year 12 + daysInMonth year 12 = 365 + (if isLeap year then 1 else 0) := by
    cases hleap : isLeap year <;> simp [daysBeforeMonth, daysInMonth, hleap]
  rcases Nat.lt_or_eq_of_le hmonth.2 with hlt | rfl
  · have := daysBeforeMonth_add year hmonth.1 hlt
    omega
  · omega

/-- A quotient grows by one where the number becomes a multiple. -/
theorem div_succ (n k : Nat) : (n + 1) / k = n / k + if (n + 1) % k = 0 then 1 else 0 := by
  rw [Nat.succ_div]
  simp only [Nat.dvd_iff_mod_eq_zero]

theorem daysBeforeYear_succ (year : Nat) :
    daysBeforeYear (year + 1) = daysBeforeYear year + 365 + (if isLeap year then 1 else 0) := by
  have hfour := div_succ (year + 3) 4
  have hcentury := div_succ (year + 99) 100
  have hcycle := div_succ (year + 399) 400
  have hless : (year + 99) / 100 ≤ (year + 3) / 4 + 1 := by
    omega
  have hof_century : year % 100 = 0 → year % 4 = 0 := by
    intro h
    omega
  have hof_cycle : year % 400 = 0 → year % 100 = 0 := by
    intro h
    omega
  have h4 : (year + 3 + 1) % 4 = year % 4 := Nat.add_mod_right year 4
  have h100 : (year + 99 + 1) % 100 = year % 100 := Nat.add_mod_right year 100
  have h400 : (year + 399 + 1) % 400 = year % 400 := Nat.add_mod_right year 400
  have hbound : (year + 99) / 100 ≤ year * 365 + (year + 3) / 4 := by
    omega
  rw [h4] at hfour
  rw [h100] at hcentury
  rw [h400] at hcycle
  simp only [daysBeforeYear, isLeap, decide_eq_true_eq, Nat.add_right_comm year 1]
  rw [hfour, hcentury, hcycle]
  by_cases hleap4 : year % 4 = 0
  · by_cases hleap100 : year % 100 = 0
    · by_cases hleap400 : year % 400 = 0
      · simp only [hleap4, hleap100, hleap400, if_true, or_true, and_self]
        omega
      · simp only [hleap4, hleap100, hleap400, if_true, if_false, not_true, ne_eq, or_self, and_false]
        omega
    · have hleap400 : ¬ year % 400 = 0 := mt hof_cycle hleap100
      simp only [hleap4, hleap100, hleap400, if_true, if_false, not_false_iff, ne_eq, true_or, and_self]
      omega
  · have hleap100 : ¬ year % 100 = 0 := mt hof_century hleap4
    have hleap400 : ¬ year % 400 = 0 := mt hof_cycle hleap100
    simp only [hleap4, hleap100, hleap400, if_false, false_and]
    omega

theorem daysBeforeYear_add {year later : Nat} (hlt : year < later) :
    daysBeforeYear year + 365 + (if isLeap year then 1 else 0) ≤ daysBeforeYear later := by
  induction later with
  | zero => omega
  | succ previous ih =>
    by_cases hyear : year = previous
    · rw [hyear, daysBeforeYear_succ]
    · have hstep := daysBeforeYear_succ previous
      have := ih (by omega)
      omega

namespace CalendarMinute

/-- The order of two dates, field by field. -/
def dateBefore (a b : CalendarMinute) : Prop :=
  a.year < b.year ∨ a.year = b.year ∧ (a.month < b.month ∨ a.month = b.month ∧ a.day < b.day)

theorem days_lt_of_dateBefore {a b : CalendarMinute} (h : a.dateBefore b) : a.days < b.days := by
  have hday := a.day_range
  have hlater := b.day_range
  unfold days
  rcases h with hyear | ⟨hyear, hmonth | ⟨hmonth, hlt⟩⟩
  · have hyears := daysBeforeYear_add hyear
    have hmonths := daysBeforeMonth_le a.year a.month_range
    omega
  · have hmonths := daysBeforeMonth_add a.year a.month_range.1 hmonth
    rw [hyear] at hmonths hday ⊢
    omega
  · rw [hyear, hmonth]
    omega

/-- The days are numbered in the order of the dates. -/
theorem days_lt_iff (a b : CalendarMinute) : a.days < b.days ↔ a.dateBefore b := by
  constructor
  · intro hlt
    by_contra hnot
    have hrest : b.dateBefore a ∨ (a.year = b.year ∧ a.month = b.month ∧ a.day = b.day) := by
      unfold dateBefore at hnot ⊢
      omega
    rcases hrest with hlater | ⟨hyear, hmonth, hday⟩
    · have := days_lt_of_dateBefore hlater
      omega
    · unfold days at hlt
      rw [hyear, hmonth, hday] at hlt
      omega
  · exact days_lt_of_dateBefore

/-- The minutes are numbered in the order of the dates, then of the times of day. -/
theorem minutes_lt_iff (a b : CalendarMinute) :
    a.minutes < b.minutes ↔
      a.days < b.days ∨ a.days = b.days ∧ (a.hour < b.hour ∨ a.hour = b.hour ∧ a.minute < b.minute) := by
  have := a.hour_lt
  have := b.hour_lt
  have := a.minute_lt
  have := b.minute_lt
  unfold minutes
  omega

/-! ## The order of the texts -/

theorem day_lt (a : CalendarMinute) : a.day < 10 ^ 2 := by
  have := a.day_range
  have hdays : daysInMonth a.year a.month ≤ 31 := by
    unfold daysInMonth
    split_ifs <;> omega
  omega

theorem month_lt (a : CalendarMinute) : a.month < 10 ^ 2 := by
  have := a.month_range
  omega

@[simp] theorem length_dateText (a : CalendarMinute) : a.dateText.length = 10 := by
  simp [dateText]

@[simp] theorem length_text (a : CalendarMinute) (separator : Char) : (a.text separator).length = 16 := by
  simp [text]

/-- Dates compare as their texts. -/
theorem dateText_lt_iff (a b : CalendarMinute) : a.dateText < b.dateText ↔ a.days < b.days := by
  rw [days_lt_iff, dateText, dateText, append_lt_append (by simp), cons_lt_cons_self,
    append_lt_append (by simp), cons_lt_cons_self, padded_lt_padded a.year_lt b.year_lt,
    padded_inj a.year_lt b.year_lt, padded_lt_padded a.month_lt b.month_lt,
    padded_inj a.month_lt b.month_lt, padded_lt_padded a.day_lt b.day_lt]
  rfl

/-- Minutes compare as their texts, where the separators are one. -/
theorem text_lt_iff (a b : CalendarMinute) (separator : Char) :
    a.text separator < b.text separator ↔ a.minutes < b.minutes := by
  have hhours : ∀ x : CalendarMinute, x.hour < 10 ^ 2 := fun x => by
    have := x.hour_lt
    omega
  have hminutes : ∀ x : CalendarMinute, x.minute < 10 ^ 2 := fun x => by
    have := x.minute_lt
    omega
  have hdates := text_eq_iff (a.dateText_lt_iff b) (b.dateText_lt_iff a)
  rw [minutes_lt_iff, text, text, append_lt_append (by simp), cons_lt_cons_self, append_lt_append (by simp),
    cons_lt_cons_self, a.dateText_lt_iff b, hdates, padded_lt_padded (hhours a) (hhours b),
    padded_inj (hhours a) (hhours b), padded_lt_padded (hminutes a) (hminutes b)]

theorem text_eq_text (a b : CalendarMinute) (separator : Char) :
    a.text separator = b.text separator ↔ a.minutes = b.minutes :=
  text_eq_iff (a.text_lt_iff b separator) (b.text_lt_iff a separator)

end CalendarMinute

end WeFlow

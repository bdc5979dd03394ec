import Mathlib.Data.Int.Notation
import Mathlib.Tactic.Common

/-!
# The Gregorian calendar

Days and dates. Years that begin in March have their leap day at the end, and their months
begin at the days `(153 * m + 2) / 5`.
-/

namespace Calendar

/-- A day of a year; the months are counted from 0. -/
@[ext]
structure Date where
  year : ℤ
  month : Fin 12
  day : ℕ
  day_pos : 0 < day
  day_le : day ≤ 31
deriving DecidableEq

/-- The days from 1 March of the year 0 to 1 March of the year `y`. -/
def marchFirst (y : ℤ) : ℤ := 365 * y + y / 4 - y / 100 + y / 400

/-- The days from 1 March of a year to the first day of its month `m`. -/
def monthStart (m : ℕ) : ℕ := (153 * m + 2) / 5

/-- The year, beginning in March, of a day. 400 years have 146097 days. -/
def marchYear (n : ℤ) : ℤ :=
  let y := 400 * n / 146097
  if n < marchFirst y then y - 1 else if n < marchFirst (y + 1) then y else y + 1

lemma marchFirst_marchYear_le (n : ℤ) : marchFirst (marchYear n) ≤ n := by
  unfold marchYear
  dsimp only
  split
  · unfold marchFirst
    omega
  · split <;> omega

lemma lt_marchFirst_marchYear (n : ℤ) : n < marchFirst (marchYear n + 1) := by
  unfold marchYear
  dsimp only
  split
  · rename_i h
    rw [Int.sub_add_cancel]
    exact h
  · split
    · assumption
    · unfold marchFirst
      omega

/-- The day of the year, beginning in March. -/
def dayOfYear (n : ℤ) : ℕ := (n - marchFirst (marchYear n)).toNat

lemma dayOfYear_eq (n : ℤ) : (dayOfYear n : ℤ) = n - marchFirst (marchYear n) :=
  Int.toNat_of_nonneg (Int.sub_nonneg.mpr (marchFirst_marchYear_le n))

lemma dayOfYear_lt (n : ℤ) : dayOfYear n < 366 := by
  have hlt := lt_marchFirst_marchYear n
  have heq := dayOfYear_eq n
  unfold marchFirst at hlt heq
  omega

/-- The month of a day of the year, beginning with March. -/
def marchMonth (d : ℕ) : ℕ := (5 * d + 2) / 153

lemma marchMonth_lt {d : ℕ} (h : d < 366) : marchMonth d < 12 := by
  unfold marchMonth
  omega

/-- The day of the month of a day of the year. -/
def monthDay (d : ℕ) : ℕ := d - monthStart (marchMonth d) + 1

lemma monthDay_le (d : ℕ) : monthDay d ≤ 31 := by
  unfold monthDay monthStart marchMonth
  omega

lemma monthStart_add_monthDay (d : ℕ) : monthStart (marchMonth d) + monthDay d = d + 1 := by
  unfold monthDay monthStart marchMonth
  omega

/-- The date of a day, counted from 1970-01-01. -/
def dateOf (days : ℤ) : Date :=
  let n := days + 719468
  let m := marchMonth (dayOfYear n)
  { year := if m < 10 then marchYear n else marchYear n + 1
    month := Fin.ofNat 12 (m + 2)
    day := monthDay (dayOfYear n)
    day_pos := Nat.succ_pos _
    day_le := monthDay_le _ }

/-- The day of a date, counted from 1970-01-01. -/
def Date.days (d : Date) : ℤ :=
  let y := if d.month.val < 2 then d.year - 1 else d.year
  marchFirst y + monthStart ((d.month.val + 10) % 12) + d.day - 1 - 719468

section Fields

variable (days : ℤ)

/-- The month, beginning with March, of a day counted from 1970-01-01. -/
def monthOf : ℕ := marchMonth (dayOfYear (days + 719468))

lemma monthOf_lt : monthOf days < 12 := marchMonth_lt (dayOfYear_lt _)

lemma month_dateOf : (dateOf days).month.val = (monthOf days + 2) % 12 := rfl

lemma year_dateOf : (dateOf days).year = if monthOf days < 10 then marchYear (days + 719468)
    else marchYear (days + 719468) + 1 := rfl

lemma day_dateOf :
    monthStart (monthOf days) + (dateOf days).day = dayOfYear (days + 719468) + 1 :=
  monthStart_add_monthDay _

end Fields

/-- A date belongs to one day. -/
theorem days_dateOf (days : ℤ) : (dateOf days).days = days := by
  have hm := monthOf_lt days
  have hday := day_dateOf days
  have hdays := dayOfYear_eq (days + 719468)
  have hmonth : ((monthOf days + 2) % 12 + 10) % 12 = monthOf days := by omega
  have hyear : (if (dateOf days).month.val < 2 then (dateOf days).year - 1
      else (dateOf days).year) = marchYear (days + 719468) := by
    have hval := month_dateOf days
    rw [year_dateOf]
    by_cases h : monthOf days < 10
    · rw [if_pos h, if_neg (by omega)]
    · rw [if_neg h, if_pos (by omega), Int.add_sub_cancel]
  unfold Date.days
  dsimp only
  rw [hyear, month_dateOf, hmonth]
  omega

theorem dateOf_injective : Function.Injective dateOf := by
  intro a b h
  rw [← days_dateOf a, h, days_dateOf]

lemma year_nonneg {days : ℤ} (h : -719468 ≤ days) : 0 ≤ (dateOf days).year := by
  have hlt := lt_marchFirst_marchYear (days + 719468)
  have hyear : 0 ≤ marchYear (days + 719468) := by
    unfold marchFirst at hlt
    omega
  rw [year_dateOf]
  split
  · exact hyear
  · exact Int.add_nonneg hyear Int.one_nonneg

example : dateOf 19659 = ⟨2023, 9, 29, by decide, by decide⟩ := by decide

end Calendar

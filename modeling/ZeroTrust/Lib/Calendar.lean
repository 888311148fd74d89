/-
# `ZeroTrust.Lib.Calendar` — the proleptic Gregorian calendar

Every fourth year has a 29 February, but of the years that end a century only every fourth.
The rule is applied to all years from the year 0 on, and a day is numbered by counting: the
days of the years before its year, those of the months before its month, and those before it
in its month.

    `daysBeforeYear_add`   the years, counted by the leap rule
    `daysBeforeMonth_add`  the months, counted from March: they have 30.6 days each, rounded
    `Date.dayNumber_add`   both together: a year that begins in March, and a day of it
    `dayNumber_injective`  no two dates have one number

Nothing here names a particular program.
-/
import Mathlib.Tactic.Common
import Mathlib.Tactic.IntervalCases

namespace ZeroTrust.Lib

def IsLeap (y : Nat) : Prop := y % 4 = 0 ∧ (y % 100 ≠ 0 ∨ y % 400 = 0)

instance (y : Nat) : Decidable (IsLeap y) := inferInstanceAs (Decidable (_ ∧ _))

def daysInYear (y : Nat) : Nat := if IsLeap y then 366 else 365

def daysInMonth (y : Nat) : Nat → Nat
  | 2 => if IsLeap y then 29 else 28
  | 4 | 6 | 9 | 11 => 30
  | 1 | 3 | 5 | 7 | 8 | 10 | 12 => 31
  | _ => 0

/-- Days from 1 January of the year 0 to 1 January of the year `y`. -/
def daysBeforeYear : Nat → Nat
  | 0 => 0
  | y + 1 => daysBeforeYear y + daysInYear y

/-- Days from 1 January to the first of the month `m`. -/
def daysBeforeMonth (y : Nat) : Nat → Nat
  | 0 => 0
  | m + 1 => daysBeforeMonth y m + daysInMonth y m

structure Date where
  year : Nat
  month : Nat
  day : Nat
  one_le_month : 1 ≤ month
  month_le : month ≤ 12
  one_le_day : 1 ≤ day
  day_le : day ≤ daysInMonth year month
  deriving DecidableEq

/-- Days since 1 January of the year 0. -/
def Date.dayNumber (d : Date) : Nat :=
  daysBeforeYear d.year + daysBeforeMonth d.year d.month + (d.day - 1)

/-! ## Counting by rules -/

theorem daysBeforeYear_add (y : Nat) :
    daysBeforeYear y + (y + 99) / 100 = 365 * y + (y + 3) / 4 + (y + 399) / 400 := by
  induction y with
  | zero => rfl
  | succ y ih =>
      rw [daysBeforeYear, daysInYear]
      by_cases hleap : IsLeap y
      · rw [if_pos hleap]
        unfold IsLeap at hleap
        omega
      · rw [if_neg hleap]
        unfold IsLeap at hleap
        omega

/-- In a year that begins in March, 29 February is the last day. -/
theorem daysBeforeMonth_add (y : Nat) {m : Nat} (hm : 3 ≤ m) (hle : m ≤ 12) :
    daysBeforeMonth y m + 306 = daysInYear y + (153 * (m - 3) + 2) / 5 := by
  unfold daysInYear
  by_cases hleap : IsLeap y
  · interval_cases m <;> simp [daysBeforeMonth, daysInMonth, hleap]
  · interval_cases m <;> simp [daysBeforeMonth, daysInMonth, hleap]

theorem daysBeforeMonth_thirteen (y : Nat) : daysBeforeMonth y 13 = daysInYear y := by
  unfold daysInYear
  by_cases hleap : IsLeap y <;> simp [daysBeforeMonth, daysInMonth, hleap]

/-! ## The order of the days -/

theorem daysBeforeYear_mono {y y' : Nat} (h : y ≤ y') : daysBeforeYear y ≤ daysBeforeYear y' := by
  induction h with
  | refl => exact le_rfl
  | step _ ih => exact ih.trans (Nat.le_add_right _ _)

theorem daysBeforeMonth_mono (y : Nat) {m m' : Nat} (h : m ≤ m') :
    daysBeforeMonth y m ≤ daysBeforeMonth y m' := by
  induction h with
  | refl => exact le_rfl
  | step _ ih => exact ih.trans (Nat.le_add_right _ _)

variable {d d' : Date}

/-- Every day of a month is before the first of the next one. -/
theorem Date.day_lt (d : Date) :
    daysBeforeMonth d.year d.month + (d.day - 1) < daysBeforeMonth d.year (d.month + 1) := by
  have hpos := d.one_le_day
  have hle := d.day_le
  rw [daysBeforeMonth]
  omega

theorem Date.dayNumber_lt (d : Date) : d.dayNumber < daysBeforeYear (d.year + 1) := by
  have hday := d.day_lt
  have hmonth : daysBeforeMonth d.year (d.month + 1) ≤ daysBeforeMonth d.year 13 :=
    daysBeforeMonth_mono d.year (Nat.succ_le_succ d.month_le)
  rw [daysBeforeMonth_thirteen] at hmonth
  rw [Date.dayNumber, daysBeforeYear]
  omega

theorem year_le_of_dayNumber (h : d.dayNumber ≤ d'.dayNumber) : d.year ≤ d'.year := by
  by_contra hlt
  have hnext : daysBeforeYear (d'.year + 1) ≤ daysBeforeYear d.year :=
    daysBeforeYear_mono (Nat.not_le.mp hlt)
  have hday := d'.dayNumber_lt
  rw [Date.dayNumber] at h
  omega

theorem month_le_of_dayNumber (hyear : d.year = d'.year) (h : d.dayNumber ≤ d'.dayNumber) :
    d.month ≤ d'.month := by
  by_contra hlt
  have hnext : daysBeforeMonth d'.year (d'.month + 1) ≤ daysBeforeMonth d'.year d.month :=
    daysBeforeMonth_mono d'.year (Nat.not_le.mp hlt)
  have hday := d'.day_lt
  rw [Date.dayNumber, Date.dayNumber, hyear] at h
  omega

/-! ## Years that begin in March -/

/-- The month, counted from March. -/
def Date.marchMonth (d : Date) : Nat := if d.month ≤ 2 then d.month + 9 else d.month - 3

/-- The year after the one that begins in March and has the date. -/
def Date.nextMarchYear (d : Date) : Nat := if d.month ≤ 2 then d.year else d.year + 1

theorem Date.dayNumber_add (d : Date) :
    d.dayNumber + 306 = daysBeforeYear d.nextMarchYear +
      ((153 * d.marchMonth + 2) / 5 + (d.day - 1)) := by
  have hpos := d.one_le_month
  have hle := d.month_le
  unfold Date.dayNumber Date.nextMarchYear Date.marchMonth
  by_cases hm : d.month ≤ 2
  · have hbefore : daysBeforeMonth d.year d.month + 306 = (153 * (d.month + 9) + 2) / 5 := by
      generalize d.month = m at *
      interval_cases m <;> rfl
    rw [if_pos hm, if_pos hm]
    omega
  · have hbefore := daysBeforeMonth_add d.year (m := d.month) (by omega) hle
    rw [if_neg hm, if_neg hm, daysBeforeYear]
    omega

theorem Date.marchDay_le (d : Date) : (153 * d.marchMonth + 2) / 5 + d.day ≤ 366 := by
  have hpos := d.one_le_month
  have hle := d.month_le
  have hday := d.day_lt
  have hlong : daysInYear d.year ≤ 366 := by
    unfold daysInYear
    split <;> decide
  have hmarch := daysBeforeMonth_add d.year (m := 3) le_rfl (by decide)
  have hnumber := d.dayNumber_add
  unfold Date.dayNumber Date.nextMarchYear at hnumber
  by_cases hm : d.month ≤ 2
  · have hmono : daysBeforeMonth d.year (d.month + 1) ≤ daysBeforeMonth d.year 3 :=
      daysBeforeMonth_mono d.year (by omega)
    rw [if_pos hm] at hnumber
    omega
  · have hmono : daysBeforeMonth d.year (d.month + 1) ≤ daysBeforeMonth d.year 13 :=
      daysBeforeMonth_mono d.year (by omega)
    rw [daysBeforeMonth_thirteen] at hmono
    rw [if_neg hm, daysBeforeYear] at hnumber
    omega

/-- **No two dates have one number.** -/
theorem dayNumber_injective (h : d.dayNumber = d'.dayNumber) : d = d' := by
  have hyear : d.year = d'.year :=
    (year_le_of_dayNumber h.le).antisymm (year_le_of_dayNumber h.ge)
  have hmonth : d.month = d'.month :=
    (month_le_of_dayNumber hyear h.le).antisymm (month_le_of_dayNumber hyear.symm h.ge)
  have hday : d.day = d'.day := by
    have hpos := d.one_le_day
    have hpos' := d'.one_le_day
    rw [Date.dayNumber, Date.dayNumber, hyear, hmonth] at h
    omega
  obtain ⟨_, _, _, _, _, _, _⟩ := d
  obtain ⟨_, _, _, _, _, _, _⟩ := d'
  subst hyear hmonth hday
  rfl

end ZeroTrust.Lib

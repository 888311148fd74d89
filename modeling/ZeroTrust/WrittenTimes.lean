/-
# `ZeroTrust.WrittenTimes` — the times the controller writes are RFC 3339 date-times

`ZeroTrust.Rfc3339` shows that the reader's arithmetic undoes the writer's.  Here both are
held against the calendar, which counts years, months and days one by one:

    `daysFromCivil_date`  the reader's count of a date is the calendar's
    `civilFromDays_date`  the writer's parts of a day are its date
    `padded_eq_digits`    the writer's numbers have the width they are padded to
    `formatRfc3339_text`  what is written is the text of a date-time, in UTC
    `Utc.eq_of_unix`      there is no other one for the same second

So from 1970 to the end of the year 9999 the connector reads the Unix time of the date-time
that the controller wrote, and of two such times the later one is read as the later one
(`expiry_read_back`).
-/
import ZeroTrust.Lib.DateTime
import ZeroTrust.Rfc3339

namespace ZeroTrust

open Lib Lib.Rfc3339

/-! ## The calendar -/

theorem daysBeforeYear_1970 : daysBeforeYear 1970 = 719528 := by
  have hrule := daysBeforeYear_add 1970
  omega

theorem checkedDaysFromCivil_date (d : Date) (h : d.year < 2 ^ 40) :
    checkedDaysFromCivil d.year d.month d.day =
      some ((d.dayNumber : Int) - daysBeforeYear 1970) := by
  have hpos := d.one_le_month
  have hle := d.month_le
  have hday := d.one_le_day
  have hlast := d.marchDay_le
  have hnumber := d.dayNumber_add
  have hyears := daysBeforeYear_add d.nextMarchYear
  have hnext : d.nextMarchYear = d.year + 1 - if d.month ≤ 2 then 1 else 0 := by
    unfold Date.nextMarchYear
    split <;> rfl
  have hmonth : 2 < d.month ∧ d.month = d.marchMonth + 3 ∨
      d.month ≤ 2 ∧ d.month + 9 = d.marchMonth := by
    unfold Date.marchMonth
    split <;> omega
  generalize d.nextMarchYear = next at *
  generalize d.marchMonth = mp at *
  -- the year that begins in March, as a year of a 400-year cycle
  obtain ⟨era, yoe, hera, hyoe⟩ : ∃ (era : Int) (yoe : Nat), (next : Int) - 1 = yoe + era * 400 ∧
      yoe < 400 :=
    ⟨((next : Int) - 1) / 400, (((next : Int) - 1) % 400).toNat, by omega, by omega⟩
  have hlow : -2 ^ 40 ≤ era := by split at hnext <;> omega
  have hhigh : era < 2 ^ 40 := by split at hnext <;> omega
  have hdoy : (153 * mp + 2) / 5 + d.day - 1 ≤ 365 := by omega
  have hmarch : (153 * mp + 2) / 5 + d.day = (153 * mp + 2) / 5 + d.day - 1 + 1 := by omega
  have hcount := checkedDaysFromCivil_of_parts hlow hhigh hyoe hdoy (by omega) hmonth hmarch
  have hyear : (yoe + era * 400 + if d.month ≤ 2 then 1 else 0 : Int) = d.year := by
    split at hnext
    next hm =>
      rw [if_pos hm]
      omega
    next hm =>
      rw [if_neg hm]
      omega
  have hfour : (((next + 3) / 4 : Nat) : Int) = (yoe / 4 : Nat) + 1 + 100 * era := by omega
  have hcentury : (((next + 99) / 100 : Nat) : Int) = (yoe / 100 : Nat) + 1 + 4 * era := by omega
  have hcycle : (((next + 399) / 400 : Nat) : Int) = 1 + era := by omega
  rw [hyear] at hcount
  rw [hcount, daysBeforeYear_1970]
  clear hcount hyear hnext
  exact congrArg some (by omega)

theorem daysFromCivil_date (d : Date) (h : d.year < 2 ^ 40) :
    daysFromCivil d.year d.month d.day = (d.dayNumber : Int) - daysBeforeYear 1970 :=
  daysFromCivil_of_checked (checkedDaysFromCivil_date d h)

/-- The day that a day of the year is put in is one of its month's, in a year that has a
29 February if it is needed. -/
theorem monthDay_le {doy y mp m d : Nat} (hdoy : doy ≤ 365) (hlast : doy = 365 → IsLeap y)
    (hmp : mp = (5 * doy + 2) / 153) (hm : m = if mp < 10 then mp + 3 else mp - 9)
    (hd : d = doy - (153 * mp + 2) / 5 + 1) : d ≤ daysInMonth y m := by
  have hle : mp ≤ 11 := by omega
  by_cases hfeb : mp = 11
  · subst hfeb
    subst hm
    have hmonth : daysInMonth y 2 = if IsLeap y then 29 else 28 := rfl
    rw [if_neg (by decide), hmonth]
    split
    · omega
    next hleap =>
      have hshort : doy ≠ 365 := fun h => hleap (hlast h)
      omega
  · have hdays : daysInMonth y m = (153 * (mp + 1) + 2) / 5 - (153 * mp + 2) / 5 := by
      have hbefore : mp ≤ 10 := by omega
      clear hle hfeb hlast hmp hd
      interval_cases mp <;> subst hm <;> rfl
    omega

/-- From 1970 on, a day is put in a year, a month and a day of the month that make a date, and
it is the day of this date. -/
theorem civilFromDays_date {days : Int} (hpos : 0 ≤ days) (h : days < 2 ^ 40) :
    ∃ d : Date, civilFromDays days = ((d.year : Int), d.month, d.day) ∧
      (d.dayNumber : Int) = days + daysBeforeYear 1970 := by
  have hback : daysFromCivil (civilFromDays days).1 (civilFromDays days).2.1
      (civilFromDays days).2.2 = days := daysFromCivil_civilFromDays (by omega) (by omega)
  obtain ⟨y, m, d, hparts, hy, hm, hmonth, hd, hday⟩ :
      ∃ y m d : Nat, civilFromDays days = ((y : Int), m, d) ∧ y < 2 ^ 40 ∧ 1 ≤ m ∧ m ≤ 12 ∧
        1 ≤ d ∧ d ≤ daysInMonth y m := by
    simp only [civilFromDays]
    generalize hdoe : ((days + 719468) % 146097).toNat = doe
    have hcycle : doe < 146097 := by omega
    obtain ⟨hyoe, hle, hdoy⟩ := yearOfEra_bounds doe hcycle
    have hlast := yearOfEra_le hcycle rfl
    generalize (doe - doe / 1460 + doe / 36524 - doe / 146096) / 365 = yoe at *
    generalize hdoy' : doe - (365 * yoe + yoe / 4 - yoe / 100) = doy
    generalize hmp : (5 * doy + 2) / 153 = mp
    generalize hm : (if mp < 10 then mp + 3 else mp - 9) = m
    have hmonths : mp < 10 ∧ m = mp + 3 ∨ 10 ≤ mp ∧ m + 9 = mp := by split at hm <;> omega
    obtain ⟨y, hy⟩ : ∃ y : Nat, (y : Int) =
        yoe + (days + 719468) / 146097 * 400 + if m ≤ 2 then 1 else 0 := by
      refine ⟨(yoe + (days + 719468) / 146097 * 400 + if m ≤ 2 then 1 else 0 : Int).toNat, ?_⟩
      split <;> omega
    have hleap : doy = 365 → IsLeap y := by
      intro hlong
      have hm2 : m ≤ 2 := by omega
      rw [if_pos hm2] at hy
      split at hlast
      next h =>
        unfold IsLeap
        omega
      · omega
    refine ⟨y, m, _, by rw [hy], ?_, by omega, by omega, by omega,
      monthDay_le (by omega) hleap hmp.symm hm.symm rfl⟩
    split at hy <;> omega
  let date : Date := ⟨y, m, d, hm, hmonth, hd, hday⟩
  have hcount : daysFromCivil y m d = (date.dayNumber : Int) - daysBeforeYear 1970 :=
    daysFromCivil_date date hy
  rw [hparts] at hback
  rw [hback] at hcount
  refine ⟨date, hparts, ?_⟩
  omega

/-! ## The text -/

/-- Where a number has no more digits than it is padded to, all of them are written. -/
theorem padded_eq_digits {w n : Nat} (hw : 0 < w) (h : n < 10 ^ w) : padded w n = digits w n := by
  have hlength : (Nat.toDigits 10 n).length ≤ w :=
    (Nat.length_toDigits_le_iff (by decide) hw).mpr h
  have hdigits : Digits w (padded w n) := by
    refine ⟨?_, fun c hc => isDigit_of_mem_padded hc⟩
    rw [padded, List.length_append, List.length_replicate]
    omega
  have hvalue : value (padded w n) = n := ofDigitChars_padded w n
  rw [← hdigits.eq, hvalue]

/-- A date-time as `time.RFC3339` writes it for UTC. -/
structure Utc (dt : DateTime) : Prop where
  upper : dt.lower = false
  second_lt : dt.second.val < 60
  fraction : dt.fraction = []
  zone : dt.zone = .zulu false

theorem Utc.unix_eq {dt : DateTime} (h : Utc dt) :
    dt.unix = ((dt.date.dayNumber : Int) - daysBeforeYear 1970) * 86400 + dt.hour.val * 3600 +
      dt.minute.val * 60 + dt.second.val := by
  rw [DateTime.unix, h.zone, Zone.seconds, Int.sub_zero, DateTime.localSeconds]

/-- A second has one date-time in UTC. -/
theorem Utc.eq_of_unix {dt dt' : DateTime} (h : Utc dt) (h' : Utc dt')
    (hunix : dt.unix = dt'.unix) : dt = dt' := by
  rw [h.unix_eq, h'.unix_eq] at hunix
  have hsecond := h.second_lt
  have hsecond' := h'.second_lt
  have hday : dt.date.dayNumber = dt'.date.dayNumber := by omega
  have hhour : dt.hour = dt'.hour := Fin.ext (by omega)
  have hminute : dt.minute = dt'.minute := Fin.ext (by omega)
  have hsecond : dt.second = dt'.second := Fin.ext (by omega)
  have hdate : dt.date = dt'.date := dayNumber_injective hday
  have hlower : dt.lower = dt'.lower := h.upper.trans h'.upper.symm
  have hfraction : dt.fraction = dt'.fraction := h.fraction.trans h'.fraction.symm
  have hzone : dt.zone = dt'.zone := h.zone.trans h'.zone.symm
  obtain ⟨_, _, _, _, _, _, _, _, _⟩ := dt
  obtain ⟨_, _, _, _, _, _, _, _, _⟩ := dt'
  subst hdate hlower hhour hminute hsecond hfraction hzone
  rfl

/-- 9999-12-31T23:59:59Z, in Unix time. -/
def lastSecond : Int := 253402300799

example : formatRfc3339 (lastSecond * nanosPerSec) = "9999-12-31T23:59:59Z" := by decide

theorem date_year_le {d : Date} {days : Int} (h : days ≤ lastSecond / 86400)
    (hnumber : (d.dayNumber : Int) = days + daysBeforeYear 1970) : d.year ≤ 9999 := by
  by_contra hlong
  have hlate : daysBeforeYear 10000 ≤ daysBeforeYear d.year :=
    daysBeforeYear_mono (Nat.not_le.mp hlong)
  have hrule := daysBeforeYear_add 10000
  rw [daysBeforeYear_1970] at hnumber
  unfold Date.dayNumber at hnumber
  unfold lastSecond at h
  omega

/-- **What the controller writes is the date-time of the second, in UTC.** -/
theorem formatRfc3339_text {t : Int} (hpos : 0 ≤ t) (h : t / nanosPerSec ≤ lastSecond) :
    ∃ dt : DateTime, Utc dt ∧ formatRfc3339 t = String.ofList dt.text ∧
      dt.unix = t / nanosPerSec := by
  have hsecs : 0 ≤ t / nanosPerSec := Int.ediv_nonneg hpos (Int.natCast_nonneg _)
  rw [formatRfc3339_eq]
  generalize t / (nanosPerSec : Int) = secs at *
  have hday : secs / 86400 ≤ lastSecond / 86400 := Int.ediv_le_ediv (by decide) h
  have hhigh : lastSecond / 86400 < 2 ^ 40 := by decide
  have hfrom : 0 ≤ secs / 86400 := Int.ediv_nonneg hsecs (by decide)
  obtain ⟨d, hparts, hnumber⟩ := civilFromDays_date hfrom (by omega)
  have hyear : d.year ≤ 9999 := date_year_le hday hnumber
  obtain ⟨s, hs⟩ : ∃ s, (secs % 86400).toNat = s := ⟨_, rfl⟩
  let dt : DateTime :=
    { date := d
      year_le := hyear
      lower := false
      hour := ⟨s / 3600, by omega⟩
      minute := ⟨s / 60 % 60, by omega⟩
      second := ⟨s % 60, by omega⟩
      fraction := []
      isDigit_fraction := fun _ hc => absurd hc List.not_mem_nil
      zone := .zulu false }
  refine ⟨dt, ⟨rfl, Nat.mod_lt _ (by decide), rfl, rfl⟩, ?_, ?_⟩
  · have hsign : ¬ (d.year : Int) < 0 := by omega
    have hmonth : d.month < 10 ^ 2 := dt.month_lt
    have hday : d.day < 10 ^ 2 := dt.day_lt
    have hdate : dateText (secs / 86400) = dt.dateText := by
      simp only [dateText, hparts, threeParts, Int.natAbs_natCast, List.append_assoc,
        List.cons_append]
      rw [padded_eq_digits (by decide) (Nat.lt_succ_of_le hyear),
        padded_eq_digits (by decide) hmonth, padded_eq_digits (by decide) hday]
      rfl
    have htime : timeText s = dt.timeText := by
      simp only [timeText, threeParts, List.append_assoc, List.cons_append]
      rw [padded_eq_digits (by decide) (by omega), padded_eq_digits (by decide) (by omega),
        padded_eq_digits (by decide) (by omega)]
      rfl
    rw [hparts, if_neg hsign, List.nil_append, hs, hdate, htime, dateTimeText, List.append_assoc]
    rfl
  · have hlocal : dt.unix = ((d.dayNumber : Int) - daysBeforeYear 1970) * 86400 +
        ((s / 3600 : Nat) : Int) * 3600 + ((s / 60 % 60 : Nat) : Int) * 60 +
        ((s % 60 : Nat) : Int) :=
      Int.sub_zero _
    omega

/-! ## Reading it -/

/-- **Round trip.**  From 1970 to the end of the year 9999, what the controller writes is the
one date-time of the second in UTC, what the connector reads is this second, and what is
written for a later second is read as a later time. -/
theorem expiry_read_back {t : Int} (hpos : 0 ≤ t) (h : t / nanosPerSec ≤ lastSecond) :
    (∃ dt : DateTime, Utc dt ∧ dt.unix = t / nanosPerSec ∧
      formatRfc3339 t = String.ofList dt.text ∧
      ∀ dt' : DateTime, Utc dt' → dt'.unix = t / nanosPerSec → dt' = dt) ∧
    parseRfc3339 (formatRfc3339 t) = some (t / nanosPerSec * nanosPerSec) ∧
    ∀ t' : Int, t / nanosPerSec < t' / nanosPerSec → t' / nanosPerSec ≤ lastSecond →
      ∃ u u', parseRfc3339 (formatRfc3339 t) = some u ∧ parseRfc3339 (formatRfc3339 t') = some u' ∧
        u < u' := by
  have hlast : lastSecond < 2 ^ 63 := by decide
  have hread : ∀ t : Int, 0 ≤ t → t / nanosPerSec ≤ lastSecond →
      parseRfc3339 (formatRfc3339 t) = some (t / nanosPerSec * nanosPerSec) := by
    intro t hpos h
    rw [parseRfc3339_formatRfc3339 (by omega), if_neg (Int.not_lt.mpr hpos)]
  refine ⟨?_, hread t hpos h, ?_⟩
  · obtain ⟨dt, hutc, htext, hunix⟩ := formatRfc3339_text hpos h
    refine ⟨dt, hutc, hunix, htext, fun dt' hutc' hunix' => ?_⟩
    exact hutc'.eq_of_unix hutc (hunix'.trans hunix.symm)
  · intro t' hlater h'
    have hpos' : 0 ≤ t' := by
      unfold nanosPerSec at hlater
      omega
    have hnanos : 0 < (nanosPerSec : Int) := by decide
    exact ⟨_, _, hread t hpos h, hread t' hpos' h', Int.mul_lt_mul_of_pos_right hlater hnanos⟩

/-- 29 February 2000, half a second after noon. -/
theorem expiry_read_back_2000 :
    ∃ u, parseRfc3339 "2000-02-29T12:00:00Z" = some u ∧ u = 951825600 * nanosPerSec := by
  have hformat : formatRfc3339 951825600500000000 = "2000-02-29T12:00:00Z" := by decide
  have hread := (expiry_read_back (t := 951825600500000000) (by decide) (by decide)).2.1
  rw [hformat] at hread
  exact ⟨_, hread, rfl⟩

end ZeroTrust

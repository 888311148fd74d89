/-
# `ZeroTrust.Rfc3339` — the connector reads the times the controller writes

Go formats a time with the `time.RFC3339` layout, and `policy/cache.rs` reads the text with
arithmetic of its own:

    civilFromDays    →  year, month, day        →  daysFromCivil
    padded           →  decimal digits          →  parseI64
    formatRfc3339    →  YYYY-MM-DDThh:mm:ssZ    →  parseRfc3339

Each arrow to the right undoes the one to the left (`daysFromCivil_civilFromDays`,
`parseI64_padded`), so what is read is the time in whole seconds, if it is not before
1970 (`parseRfc3339_formatRfc3339`).  No operation of the reader wraps on these texts.
-/
import Mathlib.Tactic.IntervalCases
import ZeroTrust.Clock

namespace ZeroTrust

/-! ## Checked arithmetic -/

theorem i64_eq_self {n : Int} (hlow : -2 ^ 63 ≤ n) (hhigh : n < 2 ^ 63) : i64 n = n := by
  unfold i64
  rw [Int.bmod_eq_of_le]
  · omega
  · omega

/-- An exact result that an `i64` holds; `none` is an overflow, where a build with overflow
checks panics. -/
def tryI64 (n : Int) : Option Int := if -2 ^ 63 ≤ n ∧ n < 2 ^ 63 then some n else none

theorem tryI64_of {n : Int} (hlow : -2 ^ 63 ≤ n) (hhigh : n < 2 ^ 63) : tryI64 n = some n :=
  if_pos ⟨hlow, hhigh⟩

theorem i64_of_tryI64 {n v : Int} (h : tryI64 n = some v) : i64 n = v := by
  unfold tryI64 at h
  split at h
  next hn => exact (i64_eq_self hn.1 hn.2).trans (Option.some.inj h)
  · cases h

/-- The year, the dividend of the era and the month of `days_from_civil`. -/
def checkedYear (y m : Int) : Option Int := if m ≤ 2 then tryI64 (y - 1) else some y

def checkedDividend (y : Int) : Option Int := if y ≥ 0 then some y else tryI64 (y - 399)

def checkedMonth (m : Int) : Option Int := if m > 2 then tryI64 (m - 3) else tryI64 (m + 9)

/-- `days_from_civil` with overflow checks. -/
def checkedDaysFromCivil (y m d : Int) : Option Int := do
  let y ← checkedYear y m
  let era := (← checkedDividend y).tdiv 400
  let yoe ← tryI64 (y - (← tryI64 (era * 400)))
  let mp ← checkedMonth m
  let doy ← tryI64 ((← tryI64 ((← tryI64 ((← tryI64 (153 * mp)) + 2)).tdiv 5 + d)) - 1)
  let doe ← tryI64
    ((← tryI64 ((← tryI64 ((← tryI64 (yoe * 365)) + yoe.tdiv 4)) - yoe.tdiv 100)) + doy)
  tryI64 ((← tryI64 ((← tryI64 (era * 146097)) + doe)) - 719468)

/-- Every operation has a result that an `i64` holds. -/
theorem checkedDaysFromCivil_eq_some {y m d v : Int} :
    checkedDaysFromCivil y m d = some v ↔
      ∃ y', checkedYear y m = some y' ∧ ∃ e, checkedDividend y' = some e ∧
      ∃ cycles, tryI64 (e.tdiv 400 * 400) = some cycles ∧ ∃ yoe, tryI64 (y' - cycles) = some yoe ∧
      ∃ mp, checkedMonth m = some mp ∧ ∃ a, tryI64 (153 * mp) = some a ∧
      ∃ b, tryI64 (a + 2) = some b ∧ ∃ c, tryI64 (b.tdiv 5 + d) = some c ∧
      ∃ doy, tryI64 (c - 1) = some doy ∧ ∃ f, tryI64 (yoe * 365) = some f ∧
      ∃ g, tryI64 (f + yoe.tdiv 4) = some g ∧ ∃ h, tryI64 (g - yoe.tdiv 100) = some h ∧
      ∃ doe, tryI64 (h + doy) = some doe ∧ ∃ j, tryI64 (e.tdiv 400 * 146097) = some j ∧
      ∃ k, tryI64 (j + doe) = some k ∧ tryI64 (k - 719468) = some v := by
  simp only [checkedDaysFromCivil, Option.bind_eq_bind, Option.bind_eq_some_iff]

/-- Where nothing overflows, the two builds agree. -/
theorem daysFromCivil_of_checked {y m d v : Int} (h : checkedDaysFromCivil y m d = some v) :
    daysFromCivil y m d = v := by
  obtain ⟨y', hy, e, he, a, ha, yoe, hyoe, mp, hmp, b, hb, c, hc, f, hf, doy, hdoy, g, hg, i, hi,
    j, hj, doe, hdoe, k, hk, l, hl, hv⟩ := checkedDaysFromCivil_eq_some.mp h
  have hyear : (if m ≤ 2 then i64 (y - 1) else y) = y' := by
    unfold checkedYear at hy
    split at hy
    next hm => rw [if_pos hm, i64_of_tryI64 hy]
    next hm => rw [if_neg hm, Option.some.inj hy]
  have hdividend : (if y' ≥ 0 then y' else i64 (y' - 399)) = e := by
    unfold checkedDividend at he
    split at he
    next hpos => rw [if_pos hpos, Option.some.inj he]
    next hpos => rw [if_neg hpos, i64_of_tryI64 he]
  have hmonth : (if m > 2 then i64 (m - 3) else i64 (m + 9)) = mp := by
    unfold checkedMonth at hmp
    split at hmp
    next hm => rw [if_pos hm, i64_of_tryI64 hmp]
    next hm => rw [if_neg hm, i64_of_tryI64 hmp]
  simp only [daysFromCivil, hyear, hdividend, hmonth, i64_of_tryI64 ha, i64_of_tryI64 hyoe,
    i64_of_tryI64 hb, i64_of_tryI64 hc, i64_of_tryI64 hf, i64_of_tryI64 hdoy,
    i64_of_tryI64 hg, i64_of_tryI64 hi, i64_of_tryI64 hj, i64_of_tryI64 hdoe,
    i64_of_tryI64 hk, i64_of_tryI64 hl, i64_of_tryI64 hv]

/-! ## The calendar -/

/-- The year of a 400-year cycle that a day is put in; the last day of the cycle apart, the
first two divisions count the leap years and the centuries that have gone by. -/
theorem yearOfEra_parts {doe yoe : Nat} (h : doe < 146096)
    (hyoe : yoe = (doe - doe / 1460 + doe / 36524 - doe / 146096) / 365) :
    ∃ a b, b < 1460 ∧ doe = 1460 * a + b ∧ doe / 36524 = yoe / 100 ∧
      yoe = (1460 * a + b - a + yoe / 100) / 365 ∧
      25 * (yoe / 100) ≤ a ∧ a ≤ 25 * (yoe / 100) + 25 := by
  have hcycle : doe / 146096 = 0 := by omega
  obtain ⟨a, b, hb, rfl⟩ : ∃ a b, b < 1460 ∧ doe = 1460 * a + b :=
    ⟨doe / 1460, doe % 1460, by omega, by omega⟩
  have ha : (1460 * a + b) / 1460 = a := by omega
  generalize hc : (1460 * a + b) / 36524 = c at *
  rw [ha, hcycle, Nat.sub_zero] at hyoe
  have hlow : 25 * c ≤ a := by omega
  have hhigh : a ≤ 25 * c + 25 := by omega
  have hcentury : yoe / 100 = c := by omega
  subst hcentury
  exact ⟨a, b, hb, rfl, rfl, hyoe, hlow, hhigh⟩

/-- A day of the 400-year cycle is one of the days of the year it is put in. -/
theorem yearOfEra_bounds (doe : Nat) (h : doe < 146097) :
    let yoe := (doe - doe / 1460 + doe / 36524 - doe / 146096) / 365
    yoe < 400 ∧ 365 * yoe + yoe / 4 - yoe / 100 ≤ doe ∧
      doe ≤ 365 * yoe + yoe / 4 - yoe / 100 + 365 := by
  intro yoe
  by_cases hlast : doe = 146096
  · subst hlast
    decide
  · obtain ⟨a, b, hb, rfl, hc, hyoe, hlow, hhigh⟩ := yearOfEra_parts (by omega) (Eq.refl yoe)
    clear_value yoe
    omega

/-- Only a leap year has a day 365. -/
theorem yearOfEra_le {doe yoe : Nat} (h : doe < 146097)
    (hyoe : yoe = (doe - doe / 1460 + doe / 36524 - doe / 146096) / 365) :
    doe ≤ 365 * yoe + yoe / 4 - yoe / 100 + 364 +
      if (yoe + 1) % 4 = 0 ∧ ((yoe + 1) % 100 ≠ 0 ∨ (yoe + 1) % 400 = 0) then 1 else 0 := by
  by_cases hlast : doe = 146096
  · subst hlast hyoe
    decide
  · obtain ⟨a, b, hb, rfl, hc, hyoe, hlow, hhigh⟩ := yearOfEra_parts (by omega) hyoe
    obtain ⟨e, he, hle⟩ : ∃ e, yoe + 1 = 4 * a + e ∧ e ≤ 5 :=
      ⟨yoe + 1 - 4 * a, by omega, by omega⟩
    have hc4 : yoe / 100 < 4 := by omega
    split
    · interval_cases e <;> omega
    next hleap =>
      have hlast : yoe % 4 ≠ 3 ∨ yoe % 100 = 99 := by omega
      clear hleap
      interval_cases e <;> omega

/-- The month, counted from March, and the day that a day of the year is put in. -/
theorem monthDay_bounds (doy : Nat) {mp m d : Nat} (hdoy : doy ≤ 365)
    (hmp : mp = (5 * doy + 2) / 153)
    (hm : m = if mp < 10 then mp + 3 else mp - 9) (hd : d = doy - (153 * mp + 2) / 5 + 1) :
    mp ≤ 11 ∧ (2 < m ∧ m = mp + 3 ∨ m ≤ 2 ∧ m + 9 = mp) ∧ (153 * mp + 2) / 5 + d = doy + 1 := by
  have hle : mp ≤ 11 := by omega
  refine ⟨hle, ?_, by omega⟩
  split at hm <;> omega

/-- No operation overflows on the parts of a date. -/
theorem checkedDaysFromCivil_of_parts {era : Int} {yoe doy mp m d : Nat} (hlow : -2 ^ 40 ≤ era)
    (hhigh : era < 2 ^ 40) (hyoe : yoe < 400) (hdoy : doy ≤ 365) (hmp : mp ≤ 11)
    (hm : 2 < m ∧ m = mp + 3 ∨ m ≤ 2 ∧ m + 9 = mp) (hd : (153 * mp + 2) / 5 + d = doy + 1) :
    checkedDaysFromCivil (yoe + era * 400 + if m ≤ 2 then 1 else 0) m d =
      some (era * 146097 + (yoe * 365 + yoe / 4 - yoe / 100 + doy) - 719468) := by
  have hyear : checkedYear (yoe + era * 400 + if m ≤ 2 then 1 else 0) m =
      some (yoe + era * 400) := by
    unfold checkedYear
    rcases hm with ⟨hm, -⟩ | ⟨hm, -⟩
    · rw [if_neg (by omega), if_neg (by omega), Int.add_zero]
    · rw [if_pos (by omega), if_pos hm, Int.add_sub_cancel, tryI64_of (by omega) (by omega)]
  have hmonth : checkedMonth m = some (mp : Int) := by
    unfold checkedMonth
    rcases hm with ⟨hm, hmp⟩ | ⟨hm, hmp⟩
    · rw [if_pos (by omega), tryI64_of (by omega) (by omega)]
      exact congrArg some (by omega)
    · rw [if_neg (by omega), tryI64_of (by omega) (by omega)]
      exact congrArg some (by omega)
  -- the truncated division by 400 rounds down, whichever sign the year has
  obtain ⟨e, he, hera⟩ : ∃ e, checkedDividend (yoe + era * 400) = some e ∧ e.tdiv 400 = era := by
    unfold checkedDividend
    by_cases hpos : (yoe + era * 400 : Int) ≥ 0
    · refine ⟨_, if_pos hpos, ?_⟩
      rw [Int.tdiv_eq_ediv_of_nonneg hpos]
      omega
    · rw [if_neg hpos, tryI64_of (by omega) (by omega)]
      refine ⟨_, rfl, ?_⟩
      rw [← Int.neg_neg (yoe + era * 400 - 399), Int.neg_tdiv,
        Int.tdiv_eq_ediv_of_nonneg (by omega)]
      omega
  have hfour : (yoe : Int).tdiv 4 = yoe / 4 := Int.tdiv_eq_ediv_of_nonneg (by omega)
  have hcentury : (yoe : Int).tdiv 100 = yoe / 100 := Int.tdiv_eq_ediv_of_nonneg (by omega)
  have hfive : (153 * mp + 2 : Int).tdiv 5 = (153 * mp + 2) / 5 :=
    Int.tdiv_eq_ediv_of_nonneg (by omega)
  have hrest : tryI64 (yoe + era * 400 - era * 400) = some (yoe : Int) := by
    rw [Int.add_sub_cancel, tryI64_of (by omega) (by omega)]
  have hday : tryI64 ((153 * mp + 2 : Int).tdiv 5 + d) = some ((doy : Int) + 1) := by
    rw [hfive, tryI64_of (by omega) (by omega)]
    exact congrArg some (by omega)
  have hdoy : tryI64 ((doy : Int) + 1 - 1) = some (doy : Int) := by
    rw [Int.add_sub_cancel, tryI64_of (by omega) (by omega)]
  rw [checkedDaysFromCivil_eq_some]
  refine ⟨_, hyear, e, he, _, tryI64_of (by omega) (by omega), yoe, by rw [hera, hrest], mp,
    hmonth, _, tryI64_of (by omega) (by omega), _, tryI64_of (by omega) (by omega), _, hday,
    _, hdoy, _, tryI64_of (by omega) (by omega), _, tryI64_of (by omega) (by omega),
    _, tryI64_of (by omega) (by omega), _, tryI64_of (by omega) (by omega),
    _, tryI64_of (by omega) (by omega), _, tryI64_of (by omega) (by omega), ?_⟩
  rw [tryI64_of (by omega) (by omega), hera, hfour, hcentury]

theorem daysFromCivil_of_parts {era : Int} {yoe doy mp m d : Nat} (hlow : -2 ^ 40 ≤ era)
    (hhigh : era < 2 ^ 40) (hyoe : yoe < 400) (hdoy : doy ≤ 365) (hmp : mp ≤ 11)
    (hm : 2 < m ∧ m = mp + 3 ∨ m ≤ 2 ∧ m + 9 = mp) (hd : (153 * mp + 2) / 5 + d = doy + 1) :
    daysFromCivil (yoe + era * 400 + if m ≤ 2 then 1 else 0) m d =
      era * 146097 + (yoe * 365 + yoe / 4 - yoe / 100 + doy) - 719468 :=
  daysFromCivil_of_checked (checkedDaysFromCivil_of_parts hlow hhigh hyoe hdoy hmp hm hd)

/-- The reader's calendar undoes the writer's. -/
theorem daysFromCivil_civilFromDays {days : Int} (hlow : -2 ^ 50 ≤ days) (hhigh : days < 2 ^ 50) :
    daysFromCivil (civilFromDays days).1 (civilFromDays days).2.1 (civilFromDays days).2.2 =
      days := by
  obtain ⟨hyoe, hle, hdoy⟩ := yearOfEra_bounds ((days + 719468) % 146097).toNat (by omega)
  simp only [civilFromDays]
  generalize hdoe : ((days + 719468) % 146097).toNat = doe at *
  generalize (doe - doe / 1460 + doe / 36524 - doe / 146096) / 365 = yoe at *
  generalize hdoy' : doe - (365 * yoe + yoe / 4 - yoe / 100) = doy
  obtain ⟨hmp, hm, hd⟩ := monthDay_bounds doy (by omega) rfl rfl rfl
  rw [daysFromCivil_of_parts (by omega) (by omega) hyoe (by omega) hmp hm hd]
  omega

/-- The parts of a date are small, and its year goes with the day. -/
theorem civilFromDays_bounds (days : Int) :
    (civilFromDays days).2.1 ≤ 12 ∧ (civilFromDays days).2.2 ≤ 366 ∧
      (civilFromDays days).1 ≤ days.natAbs + 2000 ∧
      (0 ≤ (civilFromDays days).1 → -1000000 ≤ days) ∧
      (0 ≤ days → 0 ≤ (civilFromDays days).1) := by
  obtain ⟨hyoe, hle, hdoy⟩ := yearOfEra_bounds ((days + 719468) % 146097).toNat (by omega)
  simp only [civilFromDays]
  generalize hdoe : ((days + 719468) % 146097).toNat = doe at *
  generalize (doe - doe / 1460 + doe / 36524 - doe / 146096) / 365 = yoe at *
  generalize hdoy' : doe - (365 * yoe + yoe / 4 - yoe / 100) = doy
  obtain ⟨hmp, hm, hd⟩ := monthDay_bounds doy (by omega) rfl rfl rfl
  refine ⟨?_, by omega, ?_, ?_, by omega⟩
  · split <;> omega
  · split <;> omega
  · split <;> omega

/-! ## Decimal digits -/

theorem isDigit_of_mem_padded {width n : Nat} {c : Char} (h : c ∈ padded width n) :
    c.isDigit = true := by
  rcases List.mem_append.mp h with h | h
  · obtain rfl := List.eq_of_mem_replicate h
    rfl
  · exact Nat.isDigit_of_mem_toDigits (by decide) (by decide) h

theorem padded_ne_nil (width n : Nat) : padded width n ≠ [] :=
  List.append_ne_nil_of_right_ne_nil _ Nat.toDigits_ne_nil

theorem ofDigitChars_padded (width n : Nat) : Nat.ofDigitChars 10 (padded width n) 0 = n := by
  rw [padded, Nat.ofDigitChars_append, Nat.ofDigitChars_replicate_zero, Nat.mul_zero,
    Nat.ofDigitChars_ten_toDigits]

/-- The reader's numbers are the writer's. -/
theorem parseI64_padded {width n : Nat} (h : n < 2 ^ 63) :
    parseI64 (padded width n) = some (n : Int) := by
  have hdigits : (padded width n).all Char.isDigit = true :=
    List.all_eq_true.mpr fun c hc => isDigit_of_mem_padded hc
  have hvalue := ofDigitChars_padded width n
  cases hp : padded width n with
  | nil => exact absurd hp (padded_ne_nil width n)
  | cons c cs =>
      rw [hp] at hdigits hvalue
      have hc : c.isDigit = true := (List.all_eq_true.mp hdigits) c List.mem_cons_self
      have hplus : c ≠ '+' := by
        rintro rfl
        exact absurd hc (by decide)
      have hminus : c ≠ '-' := by
        rintro rfl
        exact absurd hc (by decide)
      unfold parseI64
      split
      next neg ds heq =>
        split at heq
        next h => exact absurd (List.cons.inj h).1 hplus
        next h => exact absurd (List.cons.inj h).1 hminus
        next =>
          cases heq
          simp only [hdigits, hvalue, List.isEmpty_cons, Bool.not_true, Bool.or_self,
            Bool.false_eq_true, if_false]
          rw [if_pos ⟨by omega, by omega⟩]

/-! ## The text -/

/-- The characters of a date or a time of day. -/
def TimeChar (c : Char) : Prop := c.isDigit = true ∨ c = '-' ∨ c = ':'

instance (c : Char) : Decidable (TimeChar c) := inferInstanceAs (Decidable (_ ∨ _))

theorem isWhitespace_digit {c : Char} (h : c.isDigit = true) : isWhitespace c = false := by
  have hrange : 48 ≤ c.toNat ∧ c.toNat ≤ 57 := by
    simpa [Char.isDigit, UInt32.le_iff_toNat_le] using h
  simp only [isWhitespace, Bool.or_eq_false_iff, Bool.and_eq_false_iff, decide_eq_false_iff_not]
  omega

theorem TimeChar.isWhitespace {c : Char} (h : TimeChar c) : isWhitespace c = false := by
  rcases h with h | rfl | rfl
  · exact isWhitespace_digit h
  · rfl
  · rfl

theorem timeChar_of_mem_padded {width n : Nat} {c : Char} (h : c ∈ padded width n) :
    TimeChar c := Or.inl (isDigit_of_mem_padded h)

/-- `parse_rfc3339` after the zone and the `T`. -/
def readDateTime (date time : List Char) : Option SystemTime :=
  match date.splitOn '-', time.splitOn ':' with
  | y :: mo :: d :: _, h :: mi :: sec :: _ => do
      let year ← parseI64 y
      let month ← parseI64 mo
      let day ← parseI64 d
      let hour ← parseI64 h
      let min ← parseI64 mi
      let sec ← parseI64 (sec.takeWhile (· ≠ '.'))
      let days := daysFromCivil year month day
      let unixSecs :=
        i64 (i64 (i64 (i64 (days * 86400) + i64 (hour * 3600)) + i64 (min * 60)) + sec)
      if unixSecs < 0 then none else some (unixSecs * nanosPerSec)
  | _, _ => none

/-- A date, a `T`, a time of day and a `Z`. -/
def dateTimeText (date time : List Char) : String :=
  String.ofList (date ++ 'T' :: time ++ ['Z'])

variable {date time : List Char}

theorem splitOnce_append {sep : Char} {before : List Char} (h : sep ∉ before)
    (after : List Char) : splitOnce sep (before ++ sep :: after) = some (before, after) := by
  have hbefore : ∀ c ∈ before, decide (c ≠ sep) = true := by
    intro c hc
    rw [decide_eq_true_eq]
    rintro rfl
    exact h hc
  rw [splitOnce, List.dropWhile_append_of_pos hbefore, List.takeWhile_append_of_pos hbefore]
  simp

theorem parseRfc3339_dateTimeText (hdate : ∀ c ∈ date, TimeChar c)
    (htime : ∀ c ∈ time, TimeChar c) :
    parseRfc3339 (dateTimeText date time) = readDateTime date time := by
  have hchars : ∀ c ∈ date ++ 'T' :: time, c = 'T' ∨ TimeChar c := by
    intro c hc
    rcases List.mem_append.mp hc with hc | hc
    · exact Or.inr (hdate c hc)
    · rcases List.mem_cons.mp hc with rfl | hc
      · exact Or.inl rfl
      · exact Or.inr (htime c hc)
  have htext : (dateTimeText date time).toList = date ++ 'T' :: time ++ ['Z'] :=
    String.toList_ofList
  have htrim : trim (dateTimeText date time) = dateTimeText date time := by
    refine trim_eq_self fun c hc => ?_
    rw [htext] at hc
    rcases List.mem_append.mp hc with hc | hc
    · rcases hchars c hc with rfl | hc
      · rfl
      · exact hc.isWhitespace
    · obtain rfl := List.mem_singleton.mp hc
      rfl
  have hzone : dropTrailing "Z" (dateTimeText date time) = String.ofList (date ++ 'T' :: time) := by
    have hsuffix : "Z".toList <:+ (dateTimeText date time).toList :=
      ⟨date ++ 'T' :: time, htext.symm⟩
    rw [dropTrailing, if_pos hsuffix, htext, List.length_append]
    exact congrArg String.ofList List.take_left
  have hoffset : dropTrailing "+00:00" (String.ofList (date ++ 'T' :: time)) =
      String.ofList (date ++ 'T' :: time) := by
    rw [dropTrailing, if_neg]
    intro hsuffix
    have hplus : '+' ∈ "+00:00".toList := by decide
    have hmem := hsuffix.subset hplus
    rw [String.toList_ofList] at hmem
    rcases hchars '+' hmem with h | h
    · exact absurd h (by decide)
    · exact absurd h (by decide)
  have hT : 'T' ∉ date := fun h => absurd (hdate 'T' h) (by decide)
  simp only [parseRfc3339, htrim, hzone, hoffset, String.toList_ofList, splitOnce_append hT,
    Option.bind_eq_bind, Option.bind_some]
  rfl

/-! ## Reading back what was written -/

/-- The three numbers of a date or of a time of day. -/
def threeParts (sep : Char) (a b c : List Char) : List Char := a ++ sep :: b ++ sep :: c

theorem splitOn_threeParts {sep : Char} {a b c : List Char} (ha : sep ∉ a) (hb : sep ∉ b)
    (hc : sep ∉ c) : (threeParts sep a b c).splitOn sep = [a, b, c] := by
  rw [threeParts, List.append_assoc, List.cons_append,
    List.splitOn_append_cons_self_of_not_mem ha, List.splitOn_append_cons_self_of_not_mem hb,
    List.splitOn_eq_singleton hc]

theorem notMem_padded {c : Char} (h : c.isDigit = false) (width n : Nat) : c ∉ padded width n :=
  fun hc => absurd (isDigit_of_mem_padded hc) (h ▸ Bool.false_ne_true)

/-- The date of a time that is not before the year 0, and the time of day. -/
def dateText (days : Int) : List Char :=
  threeParts '-' (padded 4 (civilFromDays days).1.natAbs) (padded 2 (civilFromDays days).2.1)
    (padded 2 (civilFromDays days).2.2)

def timeText (s : Nat) : List Char :=
  threeParts ':' (padded 2 (s / 3600)) (padded 2 (s / 60 % 60)) (padded 2 (s % 60))

theorem formatRfc3339_eq (t : SystemTime) :
    formatRfc3339 t = dateTimeText
      ((if (civilFromDays (t / nanosPerSec / 86400)).1 < 0 then ['-'] else []) ++
        dateText (t / nanosPerSec / 86400))
      (timeText (t / nanosPerSec % 86400).toNat) := by
  obtain ⟨date, hdate⟩ : ∃ date, civilFromDays (t / nanosPerSec / 86400) = date := ⟨_, rfl⟩
  obtain ⟨y, m, d⟩ := date
  unfold formatRfc3339 dateText
  simp only [hdate, dateTimeText, timeText, threeParts, List.append_assoc, List.cons_append,
    List.nil_append]

theorem timeChar_of_mem_threeParts {sep : Char} (hsep : TimeChar sep) {w a b c : Nat} {x : Char}
    (h : x ∈ threeParts sep (padded w a) (padded 2 b) (padded 2 c)) : TimeChar x := by
  simp only [threeParts, List.append_assoc, List.cons_append, List.mem_append, List.mem_cons] at h
  rcases h with h | rfl | h | rfl | h
  · exact timeChar_of_mem_padded h
  · exact hsep
  · exact timeChar_of_mem_padded h
  · exact hsep
  · exact timeChar_of_mem_padded h

theorem parseRfc3339_formatRfc3339_eq (t : SystemTime) :
    parseRfc3339 (formatRfc3339 t) = readDateTime
      ((if (civilFromDays (t / nanosPerSec / 86400)).1 < 0 then ['-'] else []) ++
        dateText (t / nanosPerSec / 86400))
      (timeText (t / nanosPerSec % 86400).toNat) := by
  have hdash : TimeChar '-' := by decide
  have hcolon : TimeChar ':' := by decide
  rw [formatRfc3339_eq]
  refine parseRfc3339_dateTimeText ?_ fun c hc => timeChar_of_mem_threeParts hcolon hc
  intro c hc
  rcases List.mem_append.mp hc with hc | hc
  · split at hc
    · exact List.mem_singleton.mp hc ▸ hdash
    · exact absurd hc List.not_mem_nil
  · exact timeChar_of_mem_threeParts hdash hc

/-- A date before the year 0 is not read. -/
theorem readDateTime_negative (date time : List Char) : readDateTime ('-' :: date) time = none := by
  have hsplit : ('-' :: date).splitOn '-' = [] :: date.splitOn '-' :=
    List.splitOn_append_cons_self_of_not_mem List.not_mem_nil date
  have hyear : parseI64 [] = none := rfl
  unfold readDateTime
  rw [hsplit]
  split
  next heq _ =>
    obtain rfl := (List.cons.inj heq).1
    simp [hyear]
  · rfl

theorem takeWhile_padded (width n : Nat) :
    (padded width n).takeWhile (· ≠ '.') = padded width n := by
  rw [List.takeWhile_eq_self_iff]
  intro c hc
  rw [decide_eq_true_eq]
  rintro rfl
  exact notMem_padded rfl width n hc

/-- The parts of a day and of a second of the day are put together again. -/
theorem readDateTime_text {days : Int} {s : Nat} (hyear : 0 ≤ (civilFromDays days).1)
    (hdays : days < 2 ^ 50) (hs : s < 86400) (hsecs : days * 86400 + s < 2 ^ 63) :
    readDateTime (dateText days) (timeText s) =
      if days * 86400 + s < 0 then none else some ((days * 86400 + s) * nanosPerSec) := by
  obtain ⟨hmonth, hday, hhigh, hlow, -⟩ := civilFromDays_bounds days
  have hlow : -1000000 ≤ days := hlow hyear
  have hdash : '-'.isDigit = false := rfl
  have hcolon : ':'.isDigit = false := rfl
  have hcivil : daysFromCivil (civilFromDays days).1.natAbs (civilFromDays days).2.1
      (civilFromDays days).2.2 = days := by
    rw [Int.natAbs_of_nonneg hyear]
    exact daysFromCivil_civilFromDays (by omega) hdays
  have hsum : i64 (i64 (i64 (i64 (days * 86400) + i64 (((s / 3600 : Nat) : Int) * 3600)) +
      i64 (((s / 60 % 60 : Nat) : Int) * 60)) + ((s % 60 : Nat) : Int)) = days * 86400 + s := by
    rw [i64_eq_self (n := days * 86400) (by omega) (by omega),
      i64_eq_self (n := ((s / 3600 : Nat) : Int) * 3600) (by omega) (by omega),
      i64_eq_self (n := ((s / 60 % 60 : Nat) : Int) * 60) (by omega) (by omega),
      i64_eq_self (n := days * 86400 + _) (by omega) (by omega),
      i64_eq_self (n := days * 86400 + _ + _) (by omega) (by omega),
      i64_eq_self (by omega) (by omega)]
    omega
  rw [readDateTime, dateText, timeText,
    splitOn_threeParts (notMem_padded hdash _ _) (notMem_padded hdash _ _)
      (notMem_padded hdash _ _),
    splitOn_threeParts (notMem_padded hcolon _ _) (notMem_padded hcolon _ _)
      (notMem_padded hcolon _ _)]
  simp only [takeWhile_padded]
  rw [parseI64_padded (by omega), parseI64_padded (by omega), parseI64_padded (by omega),
    parseI64_padded (by omega), parseI64_padded (by omega), parseI64_padded (by omega)]
  simp only [Option.bind_eq_bind, Option.bind_some, hcivil, hsum]

/-- **Round trip.**  Of a time that the controller writes the connector reads the whole
seconds, if it is not before 1970. -/
theorem parseRfc3339_formatRfc3339 {t : Int} (h : t / nanosPerSec < 2 ^ 63) :
    parseRfc3339 (formatRfc3339 t) =
      if t < 0 then none else some (t / nanosPerSec * nanosPerSec) := by
  have hparts : t / nanosPerSec / 86400 * 86400 + (t / nanosPerSec % 86400).toNat =
      t / nanosPerSec := by omega
  have hneg : t / nanosPerSec < 0 ↔ t < 0 := by
    unfold nanosPerSec
    omega
  rw [parseRfc3339_formatRfc3339_eq]
  generalize t / nanosPerSec = secs at *
  obtain ⟨-, -, -, -, hpos⟩ := civilFromDays_bounds (secs / 86400)
  by_cases hyear : (civilFromDays (secs / 86400)).1 < 0
  · rw [if_pos hyear, List.singleton_append, readDateTime_negative, if_pos]
    have hdays : ¬ 0 ≤ secs / 86400 := fun h => absurd (hpos h) (Int.not_le.mpr hyear)
    omega
  · rw [if_neg hyear, List.nil_append, readDateTime_text (Int.not_lt.mp hyear) (by omega) (by omega)
      (by omega), hparts]
    simp only [hneg]

end ZeroTrust

/-
# `ZeroTrust.Lib.DateTime` — the date-times of RFC 3339

    date          YYYY-MM-DD, a date of the calendar
    separator     T or t
    time          hh:mm:ss, and the digits of a fraction
    zone          Z or z, or an offset from UTC, ±hh:mm

A second 60 is a leap second.  Where there have been any is a matter of record, so the days
that ended with one are a parameter (`DateTime.Occurs`).  In Unix time a leap second and the
second after it have one number.

    `digits_value`    digits are written back as they were read
    `text_injective`  a text is the text of one date-time only
-/
import Mathlib.Algebra.Ring.Int.Defs
import Mathlib.Data.List.Induction
import ZeroTrust.Lib.Calendar

namespace ZeroTrust.Lib.Rfc3339

/-! ## Decimal digits -/

/-- The last `w` decimal digits of `n`. -/
def digits : Nat → Nat → List Char
  | 0, _ => []
  | w + 1, n => digits w (n / 10) ++ [(n % 10).digitChar]

/-- The number that digits stand for. -/
abbrev value (cs : List Char) : Nat := Nat.ofDigitChars 10 cs 0

theorem length_digits (w n : Nat) : (digits w n).length = w := by
  induction w generalizing n with
  | zero => rfl
  | succ w ih => rw [digits, List.length_append, ih, List.length_singleton]

theorem isDigit_of_mem_digits {w n : Nat} {c : Char} (h : c ∈ digits w n) : c.isDigit = true := by
  induction w generalizing n with
  | zero => exact absurd h List.not_mem_nil
  | succ w ih =>
      rcases List.mem_append.mp h with h | h
      · exact ih h
      · obtain rfl := List.mem_singleton.mp h
        rw [Nat.isDigit_digitChar, decide_eq_true_eq]
        omega

theorem notMem_digits {c : Char} (h : c.isDigit = false) (w n : Nat) : c ∉ digits w n := by
  intro hmem
  rw [isDigit_of_mem_digits hmem] at h
  cases h

theorem digitChar_value {c : Char} (h : c.isDigit = true) :
    value [c] < 10 ∧ (value [c]).digitChar = c := by
  have hall : ∀ n : Fin 58, 48 ≤ n.val → value [Char.ofNat n.val] < 10 ∧
      (value [Char.ofNat n.val]).digitChar = Char.ofNat n.val := by decide
  have hrange : 48 ≤ c.toNat ∧ c.toNat ≤ 57 := by
    simpa [Char.isDigit, UInt32.le_iff_toNat_le] using h
  have hc := hall ⟨c.toNat, by omega⟩ hrange.1
  rwa [Char.ofNat_toNat] at hc

theorem value_concat (cs : List Char) (c : Char) :
    value (cs ++ [c]) = 10 * value cs + value [c] := by
  rw [value, Nat.ofDigitChars_append, Nat.ofDigitChars_eq_ofDigitChars_zero]
  rfl

theorem value_lt {cs : List Char} (h : ∀ c ∈ cs, c.isDigit = true) :
    value cs < 10 ^ cs.length := by
  induction cs using List.reverseRecOn with
  | nil => exact Nat.one_pos
  | append_singleton cs c ih =>
      have hlast := (digitChar_value (h c (by simp))).1
      have hbefore := ih fun c hc => h c (List.mem_append_left _ hc)
      rw [value_concat, List.length_append, List.length_singleton, Nat.pow_succ]
      omega

theorem value_digits {w n : Nat} (h : n < 10 ^ w) : value (digits w n) = n := by
  induction w generalizing n with
  | zero =>
      obtain rfl : n = 0 := by simpa using h
      rfl
  | succ w ih =>
      have hlast : value [(n % 10).digitChar] = n % 10 := by
        have hall : ∀ k : Fin 10, value [k.val.digitChar] = k.val := by decide
        exact hall ⟨n % 10, Nat.mod_lt _ (by decide)⟩
      rw [Nat.pow_succ] at h
      rw [digits, value_concat, ih (by omega), hlast]
      omega

/-- What is read from digits is written as the same digits. -/
theorem digits_value {cs : List Char} (h : ∀ c ∈ cs, c.isDigit = true) :
    digits cs.length (value cs) = cs := by
  induction cs using List.reverseRecOn with
  | nil => rfl
  | append_singleton cs c ih =>
      obtain ⟨hlt, hc⟩ := digitChar_value (h c (by simp))
      have hdiv : (10 * value cs + value [c]) / 10 = value cs := by omega
      have hmod : (10 * value cs + value [c]) % 10 = value [c] := by omega
      rw [List.length_append, List.length_singleton, digits, value_concat, hdiv, hmod, hc,
        ih fun c hc => h c (List.mem_append_left _ hc)]

/-- `w` digits. -/
structure Digits (w : Nat) (cs : List Char) : Prop where
  length : cs.length = w
  isDigit : ∀ c ∈ cs, c.isDigit = true

theorem Digits.eq {w : Nat} {cs : List Char} (h : Digits w cs) : digits w (value cs) = cs := by
  have hback := digits_value h.isDigit
  rwa [h.length] at hback

theorem Digits.value_lt {w : Nat} {cs : List Char} (h : Digits w cs) : value cs < 10 ^ w := by
  have hlt := Rfc3339.value_lt h.isDigit
  rwa [h.length] at hlt

theorem digits_digits (w n : Nat) : Digits w (digits w n) :=
  ⟨length_digits w n, fun _ hc => isDigit_of_mem_digits hc⟩

theorem digits_append_inj {w m n : Nat} {xs ys : List Char} (hm : m < 10 ^ w) (hn : n < 10 ^ w)
    (h : digits w m ++ xs = digits w n ++ ys) : m = n ∧ xs = ys := by
  obtain ⟨hdigits, hrest⟩ := List.append_inj h (by rw [length_digits, length_digits])
  refine ⟨?_, hrest⟩
  rw [← value_digits hm, hdigits, value_digits hn]

/-! ## Zones -/

inductive Zone where
  | zulu (lower : Bool)
  | offset (west : Bool) (hour : Fin 24) (minute : Fin 60)
  deriving DecidableEq

def Zone.text : Zone → List Char
  | .zulu lower => [if lower then 'z' else 'Z']
  | .offset west hour minute =>
      (if west then '-' else '+') :: (digits 2 hour ++ ':' :: digits 2 minute)

/-- By how much local time is ahead of UTC. -/
def Zone.seconds : Zone → Int
  | .zulu _ => 0
  | .offset west hour minute => (if west then -1 else 1) * ((hour : Int) * 3600 + minute * 60)

/-- A zone begins with one of four characters, none of them a digit or a point. -/
theorem Zone.text_eq_cons (z : Zone) :
    ∃ c cs, z.text = c :: cs ∧ c ∈ ['Z', 'z', '+', '-'] ∧ c.isDigit = false := by
  cases z with
  | zulu lower => cases lower <;> exact ⟨_, _, rfl, by decide, rfl⟩
  | offset west hour minute => cases west <;> exact ⟨_, _, rfl, by decide, rfl⟩

theorem Zone.text_injective {z z' : Zone} (h : z.text = z'.text) : z = z' := by
  cases z with
  | zulu lower =>
      cases z' with
      | zulu lower' => cases lower <;> cases lower' <;> simp_all [Zone.text]
      | offset west' hour' minute' => cases lower <;> cases west' <;> simp_all [Zone.text]
  | offset west hour minute =>
      cases z' with
      | zulu lower' => cases west <;> cases lower' <;> simp_all [Zone.text]
      | offset west' hour' minute' =>
          obtain ⟨hsign, hrest⟩ := List.cons.inj h
          have hwest : west = west' := by cases west <;> cases west' <;> simp_all
          obtain ⟨hhour, hrest⟩ := digits_append_inj (by omega) (by omega) hrest
          have hminute : digits 2 minute.val ++ [] = digits 2 minute'.val ++ [] :=
            congrArg (· ++ []) (List.cons.inj hrest).2
          obtain ⟨hminute, -⟩ := digits_append_inj (by omega) (by omega) hminute
          rw [hwest, Fin.ext hhour, Fin.ext hminute]

/-! ## Date-times -/

structure DateTime where
  date : Date
  year_le : date.year ≤ 9999
  /-- The separator is `t`. -/
  lower : Bool
  hour : Fin 24
  minute : Fin 60
  second : Fin 61
  fraction : List Char
  isDigit_fraction : ∀ c ∈ fraction, c.isDigit = true
  zone : Zone
  deriving DecidableEq

def fractionText (fraction : List Char) : List Char :=
  if fraction = [] then [] else '.' :: fraction

namespace DateTime

variable (t : DateTime)

def dateText : List Char :=
  digits 4 t.date.year ++ '-' :: (digits 2 t.date.month ++ '-' :: digits 2 t.date.day)

def timeText : List Char :=
  digits 2 t.hour ++ ':' :: (digits 2 t.minute ++ ':' :: digits 2 t.second)

def text : List Char :=
  t.dateText ++ (if t.lower then 't' else 'T') ::
    (t.timeText ++ (fractionText t.fraction ++ t.zone.text))

/-- Seconds since 1 January 1970, 00:00:00, by the clock of the zone. -/
def localSeconds : Int :=
  ((t.date.dayNumber : Int) - daysBeforeYear 1970) * 86400 + t.hour * 3600 + t.minute * 60 +
    t.second

/-- The Unix time; a fraction is dropped. -/
def unix : Int := t.localSeconds - t.zone.seconds

/-- A second 60 is at the end of a day, in UTC, that ended with a leap second. -/
def Occurs (leapDay : Int → Prop) : Prop :=
  t.second.val = 60 → ∃ day, leapDay day ∧ t.unix = (day + 1) * 86400

variable {t} {t' : DateTime}

theorem month_lt : t.date.month < 10 ^ 2 := Nat.lt_of_le_of_lt t.date.month_le (by decide)

theorem day_lt : t.date.day < 10 ^ 2 := by
  have hle := t.date.day_le
  have hmonth := t.date.month_le
  unfold daysInMonth at hle
  split at hle
  · split at hle <;> omega
  all_goals omega

theorem fraction_zone_injective
    (h : fractionText t.fraction ++ t.zone.text = fractionText t'.fraction ++ t'.zone.text) :
    t.fraction = t'.fraction ∧ t.zone = t'.zone := by
  obtain ⟨c, cs, hzone, hc, hdigit⟩ := t.zone.text_eq_cons
  obtain ⟨c', cs', hzone', hc', hdigit'⟩ := t'.zone.text_eq_cons
  have hpoint : c ≠ '.' := fun heq => absurd (heq ▸ hc) (by decide)
  have hpoint' : c' ≠ '.' := fun heq => absurd (heq ▸ hc') (by decide)
  unfold fractionText at h
  by_cases hnone : t.fraction = [] <;> by_cases hnone' : t'.fraction = []
  · rw [if_pos hnone, if_pos hnone'] at h
    exact ⟨hnone.trans hnone'.symm, Zone.text_injective h⟩
  · rw [if_pos hnone, if_neg hnone', hzone] at h
    exact absurd (List.cons.inj h).1 hpoint
  · rw [if_neg hnone, if_pos hnone', hzone'] at h
    exact absurd (List.cons.inj h).1.symm hpoint'
  · rw [if_neg hnone, if_neg hnone'] at h
    have hrest : t.fraction ++ t.zone.text = t'.fraction ++ t'.zone.text := (List.cons.inj h).2
    -- the digits in front are the fraction
    have hread : ∀ {fraction : List Char} {c : Char} {cs : List Char},
        (∀ x ∈ fraction, x.isDigit = true) → c.isDigit = false →
          (fraction ++ c :: cs).takeWhile Char.isDigit = fraction := by
      intro fraction c cs hall hno
      rw [List.takeWhile_append_of_pos hall, List.takeWhile_cons_of_neg (by simp [hno]),
        List.append_nil]
    have hfraction : t.fraction = t'.fraction := by
      rw [← hread t.isDigit_fraction hdigit, ← hzone, hrest, hzone',
        hread t'.isDigit_fraction hdigit']
    rw [hfraction] at hrest
    exact ⟨hfraction, Zone.text_injective (List.append_cancel_left hrest)⟩

theorem text_injective (h : t.text = t'.text) : t = t' := by
  simp only [text, dateText, timeText, List.append_assoc, List.cons_append] at h
  obtain ⟨hyear, h⟩ := digits_append_inj (Nat.lt_succ_of_le t.year_le)
    (Nat.lt_succ_of_le t'.year_le) h
  obtain ⟨hmonth, h⟩ := digits_append_inj month_lt month_lt (List.cons.inj h).2
  obtain ⟨hday, h⟩ := digits_append_inj day_lt day_lt (List.cons.inj h).2
  obtain ⟨hlower, h⟩ := List.cons.inj h
  obtain ⟨hhour, h⟩ := digits_append_inj (by omega) (by omega) h
  obtain ⟨hminute, h⟩ := digits_append_inj (by omega) (by omega) (List.cons.inj h).2
  obtain ⟨hsecond, h⟩ := digits_append_inj (by omega) (by omega) (List.cons.inj h).2
  obtain ⟨hfraction, hzone⟩ := fraction_zone_injective h
  have hlower' : t.lower = t'.lower := by
    cases ht : t.lower <;> cases ht' : t'.lower <;> simp_all
  obtain ⟨⟨_, _, _, _, _, _, _⟩, _, _, _, _, _, _, _, _⟩ := t
  obtain ⟨⟨_, _, _, _, _, _, _⟩, _, _, _, _, _, _, _, _⟩ := t'
  obtain rfl := Fin.ext hhour
  obtain rfl := Fin.ext hminute
  obtain rfl := Fin.ext hsecond
  subst hyear hmonth hday hlower' hfraction hzone
  rfl

end DateTime

end ZeroTrust.Lib.Rfc3339
